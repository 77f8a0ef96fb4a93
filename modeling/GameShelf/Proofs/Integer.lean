import GameShelf.Proofs.Text.LetterCase
import GameShelf.Proofs.Text.Numeral

namespace GameShelf

theorem readInteger_cons {c : Char} (hm : c ≠ '-') (hp : c ≠ '+') (radix : Radix)
    (cs : List Char) :
    readInteger radix (c :: cs) =
      (readDigits radix integerLimit .tooLarge 0 (c :: cs)).map fun n => Int64.ofInt n := by
  unfold readInteger
  split
  · next he => cases he
  · next he => exact absurd (List.cons.inj he).1 hp
  · next he => exact absurd (List.cons.inj he).1 hm
  · next he => exact absurd (List.cons.inj he).1 hm
  · next he => exact absurd (List.cons.inj he).1 hp
  · rfl

theorem readInteger_of_isNumeral {ds : List Char} (h : IsNumeral ds)
    (hle : digitsValue ds ≤ integerLimit) :
    readInteger .decimal ds = .ok (Int64.ofInt (digitsValue ds)) := by
  have hread := readDigits_of_isDigit integerLimit .tooLarge (Nat.zero_le _) h.2
  rw [Nat.zero_mul, Nat.zero_add, if_pos hle] at hread
  obtain ⟨d, ds, rfl, hd⟩ := h.exists_cons
  have hplus : d ≠ '+' := ne_of_isDigit hd (by decide)
  have hminus : d ≠ '-' := ne_of_isDigit hd (by decide)
  rw [readInteger_cons hminus hplus, hread]
  rfl

theorem readInteger_minus {ds : List Char} (h : IsNumeral ds)
    (hle : digitsValue ds ≤ integerLimit + 1) :
    readInteger .decimal ('-' :: ds) = .ok (Int64.ofInt (-(digitsValue ds : Int))) := by
  have hread := readDigits_of_isDigit (integerLimit + 1) .tooSmall (Nat.zero_le _) h.2
  rw [Nat.zero_mul, Nat.zero_add, if_pos hle] at hread
  obtain ⟨d, ds, rfl⟩ := List.exists_cons_of_ne_nil h.1
  simp [readInteger, hread, Except.map]

theorem toList_displayInteger_of_ofNat {n : Int64} {m : Nat} (h : n.toInt = Int.ofNat m) :
    (displayInteger n).toList = Nat.toDigits 10 m := by
  rw [displayInteger, h, toList_toString_ofNat]

theorem toList_displayInteger_of_negSucc {n : Int64} {m : Nat} (h : n.toInt = Int.negSucc m) :
    (displayInteger n).toList = '-' :: Nat.toDigits 10 (m + 1) := by
  rw [displayInteger, h, toList_toString_negSucc]

theorem readInteger_displayInteger (n : Int64) :
    readInteger .decimal (displayInteger n).toList = .ok n := by
  have hlow : -2 ^ 63 ≤ n.toInt := n.le_toInt
  have hhigh : n.toInt < 2 ^ 63 := n.toInt_lt
  have hlimit : integerLimit = 2 ^ 63 - 1 := rfl
  have hback : Int64.ofInt n.toInt = n := Int64.ofInt_toInt n
  cases hn : n.toInt with
  | ofNat m =>
    have hm : digitsValue (Nat.toDigits 10 m) = m := digitsValue_toDigits m
    rw [hn, Int.ofNat_eq_natCast] at hhigh hback
    rw [toList_displayInteger_of_ofNat hn,
      readInteger_of_isNumeral (isNumeral_toDigits m) (by omega), hm, hback]
  | negSucc m =>
    have hm : digitsValue (Nat.toDigits 10 (m + 1)) = m + 1 := digitsValue_toDigits (m + 1)
    rw [hn] at hlow hback
    rw [toList_displayInteger_of_negSucc hn,
      readInteger_minus (isNumeral_toDigits (m + 1)) (by omega), hm]
    exact congrArg Except.ok hback

theorem isNumberChar_of_mem_displayInteger {n : Int64} {c : Char}
    (h : c ∈ (displayInteger n).toList) : isNumberChar c = true := by
  cases hn : n.toInt with
  | ofNat m =>
    rw [toList_displayInteger_of_ofNat hn] at h
    exact isNumberChar_of_isDigit ((isNumeral_toDigits m).2 c h)
  | negSucc m =>
    rw [toList_displayInteger_of_negSucc hn, List.mem_cons] at h
    rcases h with rfl | h
    · decide
    · exact isNumberChar_of_isDigit ((isNumeral_toDigits (m + 1)).2 c h)

section LetterCase

theorem digit?_toLower (radix : Radix) (c : Char) : radix.digit? c.toLower = radix.digit? c := by
  simp only [Radix.digit?, toLower_toLower, isDigit_toLower]

theorem readDigits_map_toLower (radix : Radix) (limit : Nat) (overflow : IntegerError) (n : Nat)
    (cs : List Char) :
    readDigits radix limit overflow n (cs.map Char.toLower) =
      readDigits radix limit overflow n cs := by
  induction cs generalizing n with
  | nil => rfl
  | cons c cs ih => simp only [List.map_cons, readDigits, digit?_toLower, ih]

theorem readInteger_map_toLower (radix : Radix) (cs : List Char) :
    readInteger radix (cs.map Char.toLower) = readInteger radix cs := by
  have hdigits := fun limit overflow => readDigits_map_toLower radix limit overflow 0
  cases cs with
  | nil => rfl
  | cons c cs =>
    by_cases hminus : c = '-'
    · rw [hminus]
      cases cs with
      | nil => rfl
      | cons d ds =>
        have h := hdigits (integerLimit + 1) .tooSmall (d :: ds)
        change readInteger radix ('-' :: d.toLower :: ds.map Char.toLower) = _
        rw [List.map_cons] at h
        simp only [readInteger, h]
    · by_cases hplus : c = '+'
      · rw [hplus]
        cases cs with
        | nil => rfl
        | cons d ds =>
          have h := hdigits integerLimit .tooLarge (d :: ds)
          change readInteger radix ('+' :: d.toLower :: ds.map Char.toLower) = _
          rw [List.map_cons] at h
          simp only [readInteger, h]
      · have hm : c.toLower ≠ '-' := mt (toLower_eq_iff (by decide)).mp hminus
        have hp : c.toLower ≠ '+' := mt (toLower_eq_iff (by decide)).mp hplus
        rw [List.map_cons, readInteger_cons hm hp, readInteger_cons hminus hplus, ← List.map_cons,
          hdigits]

end LetterCase

end GameShelf
