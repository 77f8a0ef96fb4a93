import GameShelf.Binary64.Decimal
import GameShelf.Integer
import GameShelf.Text.Fold
import Mathlib.Data.List.Induction
import Mathlib.Tactic.Ring

namespace GameShelf

def IsNumeral (cs : List Char) : Prop := cs ≠ [] ∧ ∀ c ∈ cs, c.isDigit = true

instance (cs : List Char) : Decidable (IsNumeral cs) :=
  decidable_of_iff (cs ≠ [] ∧ cs.all Char.isDigit = true) (by simp [IsNumeral])

theorem digitsValue_toDigits (n : Nat) : digitsValue (Nat.toDigits 10 n) = n :=
  Nat.ofDigitChars_ten_toDigits

theorem isNumeral_toDigits (n : Nat) : IsNumeral (Nat.toDigits 10 n) := by
  refine ⟨?_, fun c hc => Nat.isDigit_of_mem_toDigits (by decide) (by decide) hc⟩
  intro h
  have hp := Nat.length_toDigits_pos (b := 10) (n := n)
  simp [h] at hp

theorem IsNumeral.exists_cons {cs : List Char} (h : IsNumeral cs) :
    ∃ d ds, cs = d :: ds ∧ d.isDigit = true := by
  obtain ⟨d, ds, rfl⟩ := List.exists_cons_of_ne_nil h.1
  exact ⟨d, ds, rfl, h.2 d List.mem_cons_self⟩

theorem toList_toString_ofNat (n : Nat) : (toString (Int.ofNat n)).toList = Nat.toDigits 10 n := by
  simp [toString, Int.repr]

theorem toList_toString_negSucc (n : Nat) :
    (toString (Int.negSucc n)).toList = '-' :: Nat.toDigits 10 (n + 1) := by
  simp [toString, Int.repr]

theorem toNat_of_isDigit {c : Char} (h : c.isDigit = true) : 48 ≤ c.toNat ∧ c.toNat ≤ 57 := by
  simpa [Char.isDigit, UInt32.le_iff_toNat_le] using h

theorem ne_of_isDigit {c d : Char} (hc : c.isDigit = true) (hd : d.isDigit = false) : c ≠ d := by
  rintro rfl
  rw [hc] at hd
  cases hd

theorem toLower_of_isDigit {c : Char} (h : c.isDigit = true) : c.toLower = c := by
  have hd := toNat_of_isDigit h
  apply toLower_eq_self
  omega

/-- The characters that numbers are written with: digits, the minus sign, the point, and the letters
of `inf` and `NaN`. -/
def isNumberChar (c : Char) : Bool := c.isDigit || ['-', '.', 'i', 'n', 'f', 'N', 'a'].contains c

theorem isNumberChar_of_isDigit {c : Char} (h : c.isDigit = true) : isNumberChar c = true := by
  simp [isNumberChar, h]

theorem splitSign_cons {c : Char} (hm : c ≠ '-') (hp : c ≠ '+') (cs : List Char) :
    splitSign (c :: cs) = (false, c :: cs) := by
  unfold splitSign
  split
  · next he => exact absurd (List.cons.inj he).1 hm
  · next he => exact absurd (List.cons.inj he).1 hp
  · rfl

theorem splitSign_of_isDigit {c : Char} (h : c.isDigit = true) (cs : List Char) :
    splitSign (c :: cs) = (false, c :: cs) :=
  splitSign_cons (ne_of_isDigit h (by decide)) (ne_of_isDigit h (by decide)) cs

theorem digitsValue_append (ds es : List Char) :
    digitsValue (ds ++ es) = digitsValue ds * 10 ^ es.length + digitsValue es := by
  induction es using List.reverseRecOn with
  | nil => simp [digitsValue]
  | append_singleton es e ih =>
    have hstep : ∀ cs : List Char, digitsValue (cs ++ [e]) = 10 * digitsValue cs + (e.toNat - 48) :=
      fun cs => by simp [digitsValue]
    rw [← List.append_assoc, hstep, hstep, ih, List.length_append, List.length_singleton, pow_succ]
    ring

theorem digitsValue_replicate_zero (k : Nat) : digitsValue (List.replicate k '0') = 0 := by
  induction k with
  | zero => rfl
  | succ k ih =>
    rw [List.replicate_succ', digitsValue_append, ih]
    simp [digitsValue]

theorem IsNumeral.append {ds es : List Char} (hd : IsNumeral ds)
    (he : ∀ c ∈ es, c.isDigit = true) : IsNumeral (ds ++ es) := by
  refine ⟨by simp [hd.1], fun c hc => ?_⟩
  rcases List.mem_append.mp hc with h | h
  · exact hd.2 c h
  · exact he c h

theorem isDigit_of_mem_zeros {k : Nat} {c : Char} (h : c ∈ List.replicate k '0') :
    c.isDigit = true := by
  rw [List.eq_of_mem_replicate h]
  decide

section Spans

variable {α : Type} {p : α → Bool} {l rest : List α} (hl : ∀ a ∈ l, p a = true)
  (hr : ∀ a ∈ rest.head?, p a = false)
include hl hr

theorem takeWhile_append_of_head? : (l ++ rest).takeWhile p = l := by
  rw [List.takeWhile_append_of_pos hl]
  cases rest with
  | nil => simp
  | cons a rest =>
    have ha : p a = false := hr a rfl
    simp [ha]

theorem dropWhile_append_of_head? : (l ++ rest).dropWhile p = rest := by
  rw [List.dropWhile_append_of_pos hl]
  cases rest with
  | nil => rfl
  | cons a rest =>
    have ha : p a = false := hr a rfl
    simp [ha]

end Spans

section Digits

variable {ds : List Char} (hd : ∀ d ∈ ds, d.isDigit = true) {c : Char} (hc : c.isDigit = false)
include hd hc

theorem takeWhile_isDigit_append (rest : List Char) :
    (ds ++ c :: rest).takeWhile Char.isDigit = ds :=
  takeWhile_append_of_head? hd fun _ h => Option.some.inj h ▸ hc

theorem dropWhile_isDigit_append (rest : List Char) :
    (ds ++ c :: rest).dropWhile Char.isDigit = c :: rest :=
  dropWhile_append_of_head? hd fun _ h => Option.some.inj h ▸ hc

end Digits

theorem digit?_of_isDigit {c : Char} (h : c.isDigit = true) :
    Radix.decimal.digit? c = some (c.toNat - 48) := by
  have hd := toNat_of_isDigit h
  have hlt : c.toNat - 48 < 10 := by omega
  simp [Radix.digit?, toLower_of_isDigit h, h, Radix.size, hlt]

theorem readDigits_of_isDigit (limit : Nat) (overflow : IntegerError) {n : Nat} (hn : n ≤ limit)
    {ds : List Char} (hd : ∀ c ∈ ds, c.isDigit = true) :
    readDigits .decimal limit overflow n ds =
      if n * 10 ^ ds.length + digitsValue ds ≤ limit then
        .ok (n * 10 ^ ds.length + digitsValue ds)
      else .error overflow := by
  induction ds generalizing n with
  | nil => simp [readDigits, digitsValue, hn]
  | cons d ds ih =>
    have hval : n * 10 ^ (d :: ds).length + digitsValue (d :: ds) =
        (n * 10 + (d.toNat - 48)) * 10 ^ ds.length + digitsValue ds := by
      rw [← List.singleton_append, digitsValue_append, List.length_append, pow_add]
      simp [digitsValue]
      ring
    rw [readDigits, digit?_of_isDigit (hd d (by simp)), hval]
    have hs : Radix.decimal.size = 10 := rfl
    simp only [hs]
    by_cases hl : limit < n * 10 + (d.toNat - 48)
    · have hpow : 1 ≤ 10 ^ ds.length := Nat.one_le_pow _ _ (by decide)
      have hmul := Nat.mul_le_mul_left (n * 10 + (d.toNat - 48)) hpow
      rw [if_pos hl, if_neg (by omega)]
    · rw [if_neg hl, ih (Nat.le_of_not_lt hl) fun c hc => hd c (List.mem_cons_of_mem d hc)]

end GameShelf
