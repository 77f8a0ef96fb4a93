import GameShelf.Binary64.Display
import GameShelf.Proofs.Binary64.Comparison
import GameShelf.Proofs.Binary64.Rounding
import GameShelf.Proofs.Text.Numeral
import Mathlib.Data.List.DropRight
import Mathlib.Data.List.TakeWhile

namespace GameShelf

namespace Binary64

theorem magnitude_of_onGrid? {tie : Tie} {m c : Nat} {exponent : Int}
    (h : onGrid? tie m exponent = some c) : Decimal.magnitude c exponent = m := by
  simp only [onGrid?] at h
  split at h
  · next hlow hhigh =>
    obtain rfl := Option.some.inj h
    have heither : ∀ (takeLow : Bool) (low : Nat), (Decimal.magnitude low exponent == m) = true →
        (Decimal.magnitude (low + 1) exponent == m) = true →
        Decimal.magnitude (if takeLow then low else low + 1) exponent = m := by
      intro takeLow low hlow hhigh
      cases takeLow with
      | true => exact beq_iff_eq.mp hlow
      | false => exact beq_iff_eq.mp hhigh
    exact heither _ _ hlow hhigh
  · next hlow _ =>
    obtain rfl := Option.some.inj h
    exact beq_iff_eq.mp hlow
  · next _ hhigh =>
    obtain rfl := Option.some.inj h
    exact beq_iff_eq.mp hhigh
  · cases h

theorem shortestDecimal_cases (tie : Tie) (m : Nat) :
    shortestDecimal tie m = exactDecimal (unitsOf m) ∨
      ∃ c exponent, shortestDecimal tie m = (c, exponent) ∧ onGrid? tie m exponent = some c := by
  simp only [shortestDecimal]
  cases hfind : (List.range 17).findSome? _ with
  | none => exact .inl (Option.getD_none)
  | some d =>
    obtain ⟨n, -, hn⟩ := List.exists_of_findSome?_eq_some hfind
    obtain ⟨c, hc, rfl⟩ := Option.map_eq_some_iff.mp hn
    exact .inr ⟨c, _, Option.getD_some, hc⟩

theorem magnitude_shortestDecimal (tie : Tie) {m : Nat} (hpos : 0 < m)
    (h : m < infinityMagnitude) :
    Decimal.magnitude (shortestDecimal tie m).1 (shortestDecimal tie m).2 = m := by
  rcases shortestDecimal_cases tie m with he | ⟨c, exponent, he, hc⟩
  · rw [he]
    exact magnitude_exactDecimal hpos h
  · rw [he]
    exact magnitude_of_onGrid? hc

/-- Digits that do not stand for zero, and the magnitude that they are read as. -/
structure Digits.Denotes (d : Digits) (m : Nat) : Prop where
  isNumeral : IsNumeral d.digits
  pos : 0 < digitsValue d.digits
  magnitude : Decimal.magnitude (digitsValue d.digits) (d.point - d.digits.length) = m

theorem Digits.denotes_ofDecimal {c : Nat} (hc : 0 < c) (e : Int) :
    (Digits.ofDecimal c e).Denotes (Decimal.magnitude c e) := by
  let ds := Nat.toDigits 10 c
  let kept := ds.rdropWhile (· == '0')
  let zeros := ds.rtakeWhile (· == '0')
  have hdigits : (Digits.ofDecimal c e).digits = kept := rfl
  have hpoint : (Digits.ofDecimal c e).point = ds.length + e := rfl
  have hsplit : kept ++ zeros = ds := List.rdropWhile_append_rtakeWhile
  have hzeros : zeros = List.replicate zeros.length '0' :=
    List.eq_replicate_of_mem fun d hd => by simpa using List.mem_rtakeWhile_imp hd
  have hlength : ds.length = kept.length + zeros.length := by rw [← hsplit, List.length_append]
  have hvalue : digitsValue kept * 10 ^ zeros.length = c := by
    have hds : digitsValue ds = c := digitsValue_toDigits c
    rw [← hsplit, digitsValue_append, hzeros, digitsValue_replicate_zero] at hds
    simpa using hds
  have hpos : 0 < digitsValue kept := Nat.pos_of_mul_pos_right (hvalue ▸ hc)
  refine ⟨⟨?_, fun d hd => ?_⟩, hdigits ▸ hpos, ?_⟩
  · rw [hdigits]
    intro hnil
    rw [hnil] at hpos
    exact absurd hpos (by decide)
  · exact (isNumeral_toDigits c).2 d ((List.rdropWhile_prefix _ ds).subset hd)
  · have hexponent : (ds.length : Int) + e - kept.length = e + zeros.length := by omega
    rw [hdigits, hpoint, hexponent, ← Decimal.magnitude_mul_pow hpos, hvalue]

theorem shortestDecimal_pos (tie : Tie) {m : Nat} (hpos : 0 < m) (h : m < infinityMagnitude) :
    0 < (shortestDecimal tie m).1 := by
  have hm := magnitude_shortestDecimal tie hpos h
  generalize shortestDecimal tie m = d at hm
  refine Nat.pos_of_ne_zero fun hz => ?_
  simp [hz, Decimal.magnitude] at hm
  omega

theorem denotes_shortestDigits (tie : Tie) {m : Nat} (hpos : 0 < m) (h : m < infinityMagnitude) :
    (shortestDigits tie m).Denotes m := by
  have hm := magnitude_shortestDecimal tie hpos h
  have hc := shortestDecimal_pos tie hpos h
  have hdigits : shortestDigits tie m =
      .ofDecimal (shortestDecimal tie m).1 (shortestDecimal tie m).2 := rfl
  rw [hdigits]
  generalize shortestDecimal tie m = d at hm hc
  have hd := Digits.denotes_ofDecimal hc d.2
  rwa [hm] at hd

end Binary64

namespace Decimal

theorem readUnsigned?_whole {ds : List Char} (h : IsNumeral ds) (negative : Bool) :
    readUnsigned? negative ds = some ⟨negative, digitsValue ds, 0⟩ := by
  have ht : ds.takeWhile Char.isDigit = ds := List.takeWhile_eq_self_iff.mpr h.2
  have hr : ds.dropWhile Char.isDigit = [] := List.dropWhile_eq_nil_iff.mpr h.2
  simp [readUnsigned?, ht, hr, splitFraction, h.1]

theorem readUnsigned?_fraction {ds es : List Char} (hd : IsNumeral ds)
    (he : ∀ c ∈ es, c.isDigit = true) (negative : Bool) :
    readUnsigned? negative (ds ++ '.' :: es) =
      some ⟨negative, digitsValue (ds ++ es), -(es.length : Int)⟩ := by
  have ht := takeWhile_isDigit_append hd.2 (by decide : '.'.isDigit = false) es
  have hr := dropWhile_isDigit_append hd.2 (by decide : '.'.isDigit = false) es
  have ht' : es.takeWhile Char.isDigit = es := List.takeWhile_eq_self_iff.mpr he
  have hr' : es.dropWhile Char.isDigit = [] := List.dropWhile_eq_nil_iff.mpr he
  simp [readUnsigned?, ht, hr, splitFraction, ht', hr', hd.1]

end Decimal

namespace Binary64

/-- The positional form is a whole number with zeros at its end, or has a point with digits on both
sides, where the first digit is that given or the only one before the point; in either case its
digits have the value of those given. -/
theorem positional_cases (tail : List Char) {d : Digits} (h : IsNumeral d.digits) :
    (∃ zeros : Nat, d.point = d.digits.length + zeros ∧
      positional tail d = d.digits ++ (List.replicate zeros '0' ++ tail)) ∨
    ∃ whole fraction, IsNumeral whole ∧ (whole = ['0'] ∨ whole.head? = d.digits.head?) ∧
      IsNumeral fraction ∧ positional tail d = whole ++ '.' :: fraction ∧
      digitsValue (whole ++ fraction) = digitsValue d.digits ∧
      -(fraction.length : Int) = d.point - d.digits.length := by
  simp only [positional]
  split
  · next hpoint =>
    have hfraction : IsNumeral (List.replicate (-d.point).toNat '0' ++ d.digits) := by
      refine ⟨by simp [h.1], fun c hc => ?_⟩
      rcases List.mem_append.mp hc with hz | hd
      · exact isDigit_of_mem_zeros hz
      · exact h.2 c hd
    refine .inr ⟨['0'], _, by decide, .inl rfl, hfraction, rfl, ?_, ?_⟩
    · rw [← List.append_assoc, digitsValue_append, digitsValue_append, digitsValue_replicate_zero]
      simp [digitsValue]
    · rw [List.length_append, List.length_replicate]
      omega
  · next hpoint =>
    split
    · next hlength =>
      exact .inl ⟨d.point.toNat - d.digits.length, by omega, List.append_assoc _ _ _⟩
    · next hlength =>
      have hwhole : IsNumeral (d.digits.take d.point.toNat) := by
        refine ⟨?_, fun c hc => h.2 c (List.mem_of_mem_take hc)⟩
        rw [Ne, List.take_eq_nil_iff, not_or]
        exact ⟨by omega, h.1⟩
      have hfraction : IsNumeral (d.digits.drop d.point.toNat) := by
        refine ⟨?_, fun c hc => h.2 c (List.mem_of_mem_drop hc)⟩
        rw [Ne, List.drop_eq_nil_iff]
        omega
      refine .inr ⟨_, _, hwhole, .inr ?_, hfraction, rfl, by rw [List.take_append_drop], ?_⟩
      · rw [List.head?_take, if_neg (by omega)]
      · rw [List.length_drop]
        omega

/-- A numeral without sign and exponent, and the magnitude that it is read as after either sign. -/
structure IsPlainNumeral (cs : List Char) (m : Nat) : Prop where
  starts : ∃ c rest, cs = c :: rest ∧ c.isDigit = true
  chars : ∀ c ∈ cs, c.isDigit = true ∨ c = '.'
  reads : ∀ negative, ∃ coefficient exponent,
    Decimal.readUnsigned? negative cs = some ⟨negative, coefficient, exponent⟩ ∧
      Decimal.magnitude coefficient exponent = m

theorem isPlainNumeral_append {ds : List Char} (hd : IsNumeral ds) {rest : List Char} {m : Nat}
    (hrest : ∀ c ∈ rest, c.isDigit = true ∨ c = '.')
    (h : ∀ negative, ∃ coefficient exponent,
      Decimal.readUnsigned? negative (ds ++ rest) = some ⟨negative, coefficient, exponent⟩ ∧
        Decimal.magnitude coefficient exponent = m) : IsPlainNumeral (ds ++ rest) m := by
  refine ⟨?_, fun c hc => ?_, h⟩
  · obtain ⟨d, ds, rfl, hdigit⟩ := hd.exists_cons
    exact ⟨d, ds ++ rest, rfl, hdigit⟩
  rcases List.mem_append.mp hc with hc | hc
  · exact .inl (hd.2 c hc)
  · exact hrest c hc

theorem isPlainNumeral_zero : IsPlainNumeral ['0'] 0 := by
  have hzero : IsNumeral ['0'] := by decide
  exact isPlainNumeral_append hzero (by simp) fun negative =>
    ⟨_, _, Decimal.readUnsigned?_whole hzero negative, rfl⟩

theorem isPlainNumeral_positional {d : Digits} {m : Nat} (h : d.Denotes m) :
    IsPlainNumeral (positional [] d) m := by
  obtain ⟨hnumeral, hpos, hm⟩ := h
  rcases positional_cases [] hnumeral with
    ⟨zeros, hpoint, hp⟩ | ⟨whole, fraction, hwhole, -, hfraction, hp, hvalue, hexponent⟩
  · have hzeros : ∀ c ∈ List.replicate zeros '0', c.isDigit = true := fun _ => isDigit_of_mem_zeros
    have hexponent : (0 : Int) + zeros = d.point - d.digits.length := by omega
    rw [hp, List.append_nil]
    refine isPlainNumeral_append hnumeral (fun c hc => .inl (hzeros c hc)) fun negative =>
      ⟨_, _, Decimal.readUnsigned?_whole (hnumeral.append hzeros) negative, ?_⟩
    rw [digitsValue_append, digitsValue_replicate_zero, List.length_replicate, Nat.add_zero,
      Decimal.magnitude_mul_pow hpos, hexponent, hm]
  · rw [hp]
    refine isPlainNumeral_append hwhole (fun c hc => ?_) fun negative =>
      ⟨_, _, Decimal.readUnsigned?_fraction hwhole hfraction.2 negative, ?_⟩
    · rcases List.mem_cons.mp hc with rfl | hc
      · exact .inr rfl
      · exact .inl (hfraction.2 c hc)
    · rw [hvalue, hexponent, hm]

theorem exists_isPlainNumeral_of_isFinite {x : Binary64} (h : x.isFinite = true) :
    ∃ cs, x.display.toList = x.signChars ++ cs ∧ IsPlainNumeral cs x.magnitude := by
  have hlt : x.magnitude < infinityMagnitude := by simpa [isFinite] using h
  have hnan : x.isNaN = false := decide_eq_false (by omega)
  by_cases hz : x.magnitude = 0
  · refine ⟨['0'], ?_, hz ▸ isPlainNumeral_zero⟩
    simp [display, hnan, h, hz]
  · refine ⟨positional [] (shortestDigits .up x.magnitude), ?_,
      isPlainNumeral_positional (denotes_shortestDigits .up (Nat.pos_of_ne_zero hz) hlt)⟩
    simp only [display, hnan, h, hz, Bool.not_true, Bool.false_eq_true, if_false,
      String.toList_ofList]

theorem toList_display_of_isInfinite {x : Binary64} (h : x.magnitude = infinityMagnitude) :
    x.display.toList = x.signChars ++ ['i', 'n', 'f'] := by
  simp [display, isNaN, isFinite, h]

theorem splitSign_signChars (x : Binary64) {c : Char} (cs : List Char) (hm : c ≠ '-')
    (hp : c ≠ '+') : splitSign (x.signChars ++ c :: cs) = (x.isNegative, c :: cs) := by
  unfold signChars
  cases x.isNegative with
  | true => rfl
  | false => exact splitSign_cons hm hp cs

theorem readSigned_signChars {x : Binary64} {cs : List Char}
    (hstarts : ∃ c rest, cs = c :: rest ∧ c.isDigit = true)
    (hreads : ∀ negative, ∃ coefficient exponent,
      Decimal.readUnsigned? negative cs = some ⟨negative, coefficient, exponent⟩ ∧
        Decimal.magnitude coefficient exponent = x.magnitude) :
    splitSign (x.signChars ++ cs) = (x.isNegative, cs) ∧
      ∃ d, Decimal.readUnsigned? x.isNegative cs = some d ∧ d.toBinary64 = x := by
  obtain ⟨coefficient, exponent, hread, hm⟩ := hreads x.isNegative
  obtain ⟨c, rest, rfl, hdigit⟩ := hstarts
  refine ⟨?_, _, hread, ?_⟩
  · exact splitSign_signChars x rest (ne_of_isDigit hdigit (by decide))
      (ne_of_isDigit hdigit (by decide))
  · rw [Decimal.toBinary64, hm, ofMagnitude_magnitude]

/-- Only the payload and the sign of a NaN are lost in the text of a double. -/
theorem read?_display {x : Binary64} (h : x.isNaN = false) : read? x.display = some x := by
  rcases isFinite_or_eq_infinity h with hfin | hinf
  · obtain ⟨cs, hd, hc⟩ := exists_isPlainNumeral_of_isFinite hfin
    obtain ⟨hsign, d, hread, hvalue⟩ := readSigned_signChars hc.starts hc.reads
    simp only [read?, hd, hsign, hread, hvalue]
  · have hsign := splitSign_signChars x ['n', 'f'] (c := 'i') (by decide) (by decide)
    have hread : Decimal.readUnsigned? x.isNegative ['i', 'n', 'f'] = none := rfl
    have hspecial : special? ['i', 'n', 'f'] = some x.magnitude := by
      rw [hinf]
      decide
    simp only [read?, toList_display_of_isInfinite hinf, hsign, hread, hspecial, Option.map_some,
      ofMagnitude_magnitude]

theorem display_of_isNaN {x : Binary64} (h : x.isNaN = true) : x.display = "NaN" := by
  simp [display, h]

theorem read?_nan : read? "NaN" = some nan := by
  decide

theorem all_isNumberChar_signChars (x : Binary64) : x.signChars.all isNumberChar = true := by
  unfold signChars
  cases x.isNegative <;> decide

theorem isNumberChar_of_mem_display {x : Binary64} {c : Char} (h : c ∈ x.display.toList) :
    isNumberChar c = true := by
  have hall : x.display.toList.all isNumberChar = true := by
    by_cases hnan : x.isNaN = true
    · rw [display_of_isNaN hnan]
      decide
    · rcases isFinite_or_eq_infinity (eq_false_of_ne_true hnan) with hfin | hinf
      · obtain ⟨cs, hd, hc⟩ := exists_isPlainNumeral_of_isFinite hfin
        rw [hd, List.all_append, all_isNumberChar_signChars, Bool.true_and, List.all_eq_true]
        intro c hmem
        rcases hc.chars c hmem with hdigit | rfl
        · exact isNumberChar_of_isDigit hdigit
        · decide
      · rw [toList_display_of_isInfinite hinf, List.all_append, all_isNumberChar_signChars]
        decide
  exact List.all_eq_true.mp hall c h

end Binary64
end GameShelf
