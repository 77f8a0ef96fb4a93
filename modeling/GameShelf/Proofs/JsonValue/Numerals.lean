import GameShelf.Proofs.Binary64.ReadBack
import GameShelf.Proofs.JsonValue.Grammar

namespace GameShelf

def Decimal.ofInt (n : Int) : Decimal := ⟨decide (n < 0), n.natAbs, 0⟩

namespace JsonValue

def number? : JsonValue → Option Decimal
  | .number numeral =>
    let (negative, cs) := splitSign numeral.toList
    Decimal.readUnsigned? negative cs
  | _ => none

section WholeNumbers

theorem isWhole_toDigits (n : Nat) : IsWhole (Nat.toDigits 10 n) := by
  refine ⟨isNumeral_toDigits n, ?_⟩
  induction n using Nat.strongRecOn with
  | ind n ih =>
    by_cases hn : n < 10
    · rw [Nat.toDigits_of_lt_base hn]
      intro h
      rw [Option.some.inj h]
    · intro h
      have hn' : 10 ≤ n := Nat.le_of_not_lt hn
      rw [Nat.toDigits_of_base_le (by decide) hn',
        List.head?_append_of_ne_nil _ (isNumeral_toDigits (n / 10)).1] at h
      -- the leading digits are those of a smaller number, which is not zero
      have hzero := digitsValue_toDigits (n / 10)
      rw [ih (n / 10) (Nat.div_lt_self (by omega) (by decide)) h] at hzero
      have hpos : 0 < n / 10 := Nat.div_pos hn' (by decide)
      exact absurd hzero.symm hpos.ne'

theorem isNumber_of_isWhole {sign whole : List Char} (hs : sign = [] ∨ sign = ['-'])
    (hw : IsWhole whole) : IsNumber (sign ++ whole) :=
  ⟨sign, whole, [], [], hs, hw, .inl rfl, .inl rfl, by rw [List.append_nil, List.append_nil]⟩

theorem isNumber_toString (n : Int) : IsNumber (toString n).toList := by
  cases n with
  | ofNat n =>
    rw [toList_toString_ofNat]
    exact isNumber_of_isWhole (.inl rfl) (isWhole_toDigits n)
  | negSucc n =>
    rw [toList_toString_negSucc]
    exact isNumber_of_isWhole (.inr rfl) (isWhole_toDigits (n + 1))

theorem number?_toString (n : Int) : number? (.number (toString n)) = some (.ofInt n) := by
  cases n with
  | ofNat n =>
    have hsign : splitSign (Nat.toDigits 10 n) = (false, Nat.toDigits 10 n) := by
      obtain ⟨d, ds, hds, hd⟩ := (isNumeral_toDigits n).exists_cons
      rw [hds, splitSign_of_isDigit hd]
    simp only [number?, toList_toString_ofNat, hsign]
    rw [Decimal.readUnsigned?_whole (isNumeral_toDigits n), digitsValue_toDigits]
    simp [Decimal.ofInt]
  | negSucc n =>
    simp only [number?, toList_toString_negSucc, splitSign]
    rw [Decimal.readUnsigned?_whole (isNumeral_toDigits (n + 1)), digitsValue_toDigits]
    simp [Decimal.ofInt, Int.negSucc_lt_zero]

end WholeNumbers

section Doubles

/-- A number without sign, and the magnitude that it is read as behind either sign. -/
structure IsNumeralOf (cs : List Char) (m : Nat) : Prop where
  starts : ∃ c rest, cs = c :: rest ∧ c.isDigit = true
  isNumber : ∀ sign, sign = [] ∨ sign = ['-'] → IsNumber (sign ++ cs)
  reads : ∀ negative, ∃ coefficient exponent,
    Decimal.readUnsigned? negative cs = some ⟨negative, coefficient, exponent⟩ ∧
      Decimal.magnitude coefficient exponent = m

theorem isNumeralOf_parts {whole fraction exponent : List Char} {m : Nat} (hw : IsWhole whole)
    (hf : IsFraction fraction) (he : IsExponent exponent)
    (h : ∀ negative, ∃ coefficient e,
      Decimal.readUnsigned? negative (whole ++ (fraction ++ exponent)) =
        some ⟨negative, coefficient, e⟩ ∧ Decimal.magnitude coefficient e = m) :
    IsNumeralOf (whole ++ (fraction ++ exponent)) m := by
  refine ⟨?_, fun sign hs => ⟨sign, whole, fraction, exponent, hs, hw, hf, he, rfl⟩, h⟩
  obtain ⟨d, ds, rfl, hd⟩ := hw.1.exists_cons
  exact ⟨d, _, rfl, hd⟩

theorem isNumeralOf_fraction {whole fraction : List Char} {m : Nat} (hw : IsWhole whole)
    (hf : IsNumeral fraction)
    (hm : Decimal.magnitude (digitsValue (whole ++ fraction)) (-(fraction.length : Int)) = m) :
    IsNumeralOf (whole ++ '.' :: fraction) m := by
  have hparts := isNumeralOf_parts (m := m) hw (.inr ⟨fraction, hf, rfl⟩) (.inl rfl) ?_
  · rwa [List.append_nil] at hparts
  · intro negative
    rw [List.append_nil]
    exact ⟨_, _, Decimal.readUnsigned?_fraction hw.1 hf.2 negative, hm⟩

theorem isNumeralOf_zero : IsNumeralOf ['0', '.', '0'] 0 := by
  have hwhole : IsWhole ['0'] := by decide
  have hfraction : IsNumeral ['0'] := by decide
  exact isNumeralOf_fraction hwhole hfraction rfl

theorem isWhole_of_head? {cs : List Char} (h : IsNumeral cs) (hh : cs.head? ≠ some '0') :
    IsWhole cs :=
  ⟨h, fun he => absurd he hh⟩

theorem isNumeralOf_positional {d : Binary64.Digits} {m : Nat} (h : d.Denotes m)
    (hhead : d.digits.head? ≠ some '0') :
    IsNumeralOf (Binary64.positional ['.', '0'] d) m := by
  obtain ⟨hnumeral, hpos, hm⟩ := h
  rcases Binary64.positional_cases ['.', '0'] hnumeral with
    ⟨zeros, hpoint, hp⟩ | ⟨whole, fraction, hwhole, hfirst, hfraction, hp, hvalue, hexponent⟩
  · have hzeros : ∀ c ∈ List.replicate zeros '0', c.isDigit = true := fun _ => isDigit_of_mem_zeros
    have hwhole : IsWhole (d.digits ++ List.replicate zeros '0') := by
      refine isWhole_of_head? (hnumeral.append hzeros) ?_
      rwa [List.head?_append_of_ne_nil _ hnumeral.1]
    have hexponent : -(1 : Int) + (zeros + 1 : Nat) = d.point - d.digits.length := by omega
    rw [hp, ← List.append_assoc]
    refine isNumeralOf_fraction hwhole (by decide) ?_
    rw [List.append_assoc, ← List.replicate_succ', digitsValue_append,
      digitsValue_replicate_zero, List.length_replicate, Nat.add_zero, List.length_singleton,
      Nat.cast_one, Decimal.magnitude_mul_pow hpos, hexponent, hm]
  · rw [hp]
    refine isNumeralOf_fraction ⟨hwhole, fun h => ?_⟩ hfraction (by rw [hvalue, hexponent, hm])
    rcases hfirst with hzero | hfirst
    · exact hzero
    · exact absurd (hfirst.symm.trans h) hhead

theorem readExponent?_minus {ds : List Char} (h : IsNumeral ds) :
    readExponent? ('-' :: ds) = some (-(digitsValue ds : Int)) := by
  have hall : ds.all Char.isDigit = true := List.all_eq_true.mpr h.2
  simp [readExponent?, splitSign, h.1, hall]

theorem readExponent?_plus {ds : List Char} (h : IsNumeral ds) :
    readExponent? ('+' :: ds) = some (digitsValue ds : Int) := by
  have hall : ds.all Char.isDigit = true := List.all_eq_true.mpr h.2
  simp [readExponent?, splitSign, h.1, hall]

theorem readExponent?_signed (e : Int) :
    readExponent? ((if e < 0 then '-' else '+') :: Nat.toDigits 10 e.natAbs) = some e := by
  have hn := isNumeral_toDigits e.natAbs
  by_cases he : e < 0
  · rw [if_pos he, readExponent?_minus hn, digitsValue_toDigits,
      Int.ofNat_natAbs_of_nonpos (Int.le_of_lt he), Int.neg_neg]
  · rw [if_neg he, readExponent?_plus hn, digitsValue_toDigits,
      Int.natAbs_of_nonneg (Int.not_lt.mp he)]

section Scientific

variable {c : Char} (hc : c.isDigit = true) {rest : List Char} {e : Int}
  (hr : readExponent? rest = some e) (negative : Bool)
include hc hr

theorem readUnsigned?_exponent :
    Decimal.readUnsigned? negative (c :: 'e' :: rest) = some ⟨negative, digitsValue [c], e⟩ := by
  have he : 'e'.isDigit = false := by decide
  simp [Decimal.readUnsigned?, Decimal.splitFraction, hc, he, hr]

theorem readUnsigned?_fraction_exponent {fraction : List Char}
    (hf : ∀ d ∈ fraction, d.isDigit = true) :
    Decimal.readUnsigned? negative (c :: '.' :: (fraction ++ 'e' :: rest)) =
      some ⟨negative, digitsValue (c :: fraction), e - fraction.length⟩ := by
  have hp : '.'.isDigit = false := by decide
  have ht := takeWhile_isDigit_append hf (by decide : 'e'.isDigit = false) rest
  have hd := dropWhile_isDigit_append hf (by decide : 'e'.isDigit = false) rest
  simp [Decimal.readUnsigned?, Decimal.splitFraction, hc, hp, ht, hd, hr]

end Scientific

theorem isNumeralOf_scientific {d : Binary64.Digits} {m : Nat} (h : d.Denotes m) :
    IsNumeralOf (Binary64.scientific d) m := by
  obtain ⟨digits, point⟩ := d
  obtain ⟨hnumeral, -, hm⟩ := h
  obtain ⟨c, cs, rfl, hc⟩ := hnumeral.exists_cons
  have hwhole : IsWhole [c] :=
    ⟨⟨List.cons_ne_nil c [], by simpa using hc⟩, fun h => by rw [Option.some.inj h]⟩
  have hr := readExponent?_signed (point - 1)
  have he : IsExponent ('e' :: (if point - 1 < 0 then '-' else '+') ::
      Nat.toDigits 10 (point - 1).natAbs) := by
    refine .inr ⟨'e', [if point - 1 < 0 then '-' else '+'], _, .inl rfl, ?_,
      isNumeral_toDigits (point - 1).natAbs, rfl⟩
    split
    · exact .inr (.inr rfl)
    · exact .inr (.inl rfl)
  cases cs with
  | nil =>
    refine isNumeralOf_parts hwhole (.inl rfl) he fun negative => ?_
    refine ⟨_, _, readUnsigned?_exponent hc hr negative, ?_⟩
    simpa using hm
  | cons d cs =>
    have hf : IsNumeral (d :: cs) :=
      ⟨List.cons_ne_nil d cs, fun x hx => hnumeral.2 x (List.mem_cons_of_mem c hx)⟩
    refine isNumeralOf_parts hwhole (.inr ⟨d :: cs, hf, rfl⟩) he fun negative => ?_
    refine ⟨_, _, readUnsigned?_fraction_exponent hc hr negative hf.2, ?_⟩
    rw [← hm]
    congr 1
    simp only [List.length_cons]
    omega

theorem head?_ofDecimal {c : Nat} (hc : 0 < c) (e : Int) :
    (Binary64.Digits.ofDecimal c e).digits.head? ≠ some '0' := by
  have hne := (Binary64.Digits.denotes_ofDecimal hc e).isNumeral.1
  let kept := (Nat.toDigits 10 c).rdropWhile (· == '0')
  have hkept : (Binary64.Digits.ofDecimal c e).digits = kept := rfl
  obtain ⟨zeros, hzeros⟩ : ∃ zeros, kept ++ zeros = Nat.toDigits 10 c :=
    List.rdropWhile_prefix _ _
  intro hhead
  rw [hkept] at hne hhead
  have hsame : (Nat.toDigits 10 c).head? = some '0' := by
    rw [← hzeros, List.head?_append_of_ne_nil _ hne, hhead]
  have hvalue := digitsValue_toDigits c
  rw [(isWhole_toDigits c).2 hsame] at hvalue
  exact absurd hvalue.symm hc.ne'

theorem head?_shortestDigits (tie : Binary64.Tie) {m : Nat} (hpos : 0 < m)
    (h : m < Binary64.infinityMagnitude) :
    (Binary64.shortestDigits tie m).digits.head? ≠ some '0' :=
  head?_ofDecimal (Binary64.shortestDecimal_pos tie hpos h) _

theorem exists_isNumeralOf {x : Binary64} (h : x.isFinite = true) :
    ∃ cs, x.displayJson? = some (String.ofList (x.signChars ++ cs)) ∧
      IsNumeralOf cs x.magnitude := by
  have hlt : x.magnitude < Binary64.infinityMagnitude := by simpa [Binary64.isFinite] using h
  unfold Binary64.displayJson?
  rw [if_neg (by simp [h])]
  by_cases hz : x.magnitude = 0
  · rw [if_pos hz, hz]
    exact ⟨_, rfl, isNumeralOf_zero⟩
  · have hpos := Nat.pos_of_ne_zero hz
    have hd := Binary64.denotes_shortestDigits .even hpos hlt
    have hhead := head?_shortestDigits .even hpos hlt
    rw [if_neg hz]
    refine ⟨_, rfl, ?_⟩
    split
    · exact isNumeralOf_positional hd hhead
    · exact isNumeralOf_scientific hd

theorem displayJson?_of_not_isFinite {x : Binary64} (h : x.isFinite = false) :
    x.displayJson? = none := by
  simp [Binary64.displayJson?, h]

/-- A finite double is nearest to the decimal that its numeral names. -/
theorem number?_displayJson {x : Binary64} (h : x.isFinite = true) :
    ∃ numeral, x.displayJson? = some numeral ∧ IsNumber numeral.toList ∧
      (number? (.number numeral)).map Decimal.toBinary64 = some x := by
  obtain ⟨cs, hdisplay, hcs⟩ := exists_isNumeralOf h
  refine ⟨_, hdisplay, ?_, ?_⟩
  · rw [String.toList_ofList]
    refine hcs.isNumber _ ?_
    unfold Binary64.signChars
    cases x.isNegative with
    | true => exact .inr rfl
    | false => exact .inl rfl
  · obtain ⟨hsign, d, hread, hvalue⟩ := Binary64.readSigned_signChars hcs.starts hcs.reads
    simp only [number?, String.toList_ofList, hsign, hread, Option.map_some, hvalue]

end Doubles

end JsonValue
end GameShelf
