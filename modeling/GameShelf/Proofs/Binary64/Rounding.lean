import GameShelf.Binary64.Shortest
import Mathlib.Tactic.Ring

namespace GameShelf

namespace Binary64

theorem roundDiv_mul_right (num den : Nat) {k : Nat} (hk : 0 < k) :
    roundDiv (num * k) (den * k) = roundDiv num den := by
  have hlow : 2 * (num % den * k) < den * k ↔ 2 * (num % den) < den := by
    rw [← Nat.mul_assoc, Nat.mul_lt_mul_right hk]
  have hhigh : den * k < 2 * (num % den * k) ↔ den < 2 * (num % den) := by
    rw [← Nat.mul_assoc, Nat.mul_lt_mul_right hk]
  simp only [roundDiv, Nat.mul_div_mul_right _ _ hk, Nat.mul_mod_mul_right, hlow, hhigh]

theorem roundDiv_mul_self (q : Nat) {den : Nat} (h : 0 < den) : roundDiv (q * den) den = q := by
  simp [roundDiv, Nat.mul_div_cancel _ h, h]

theorem nearest_mul_right (num den : Nat) {k : Nat} (hk : 0 < k) :
    nearest (num * k) (den * k) = nearest num den := by
  have hshift : ∀ shift, (den * k) <<< shift = (den <<< shift) * k := by
    intro shift
    rw [Nat.shiftLeft_eq, Nat.shiftLeft_eq]
    ring
  simp only [nearest, Nat.mul_div_mul_right _ _ hk, hshift, roundDiv_mul_right _ _ hk]

theorem nearest_congr {num den num' den' : Nat} (hden : 0 < den) (hden' : 0 < den')
    (h : num * den' = num' * den) : nearest num den = nearest num' den' := by
  rw [← nearest_mul_right num den hden', h, Nat.mul_comm den den', nearest_mul_right num' den' hden]

theorem log2_binade_add (f k : Nat) (hf : f < binade) : Nat.log2 ((binade + f) <<< k) = 52 + k := by
  have hb : binade = 2 ^ 52 := rfl
  have hpos : (binade + f) <<< k ≠ 0 := by
    rw [Nat.shiftLeft_eq]
    exact Nat.mul_ne_zero (by omega) (Nat.two_pow_pos k).ne'
  rw [Nat.log2_eq_iff hpos, Nat.shiftLeft_eq, Nat.pow_add, Nat.add_right_comm, Nat.pow_add]
  constructor
  · exact Nat.mul_le_mul_right _ (by omega)
  · exact Nat.mul_lt_mul_of_pos_right (by omega) (Nat.two_pow_pos k)

theorem nearest_unitsOf {m : Nat} (h : m < infinityMagnitude) : nearest (unitsOf m) 1 = m := by
  have hb : binade = 2 ^ 52 := rfl
  by_cases hsmall : m < binade
  · have hlog : Nat.log2 m - 52 = 0 := by
      by_cases hz : m = 0
      · subst hz
        decide
      · have := (Nat.log2_lt hz).mpr (hb ▸ hsmall)
        omega
    have hround : roundDiv m 1 = m := by simpa using roundDiv_mul_self m Nat.one_pos
    simp [nearest, unitsOf, hsmall, hlog, hround, Nat.min_eq_left h.le]
  · have hf : m % binade < binade := Nat.mod_lt _ (by decide)
    have he : 1 ≤ m / binade := Nat.div_pos (by omega) (by decide)
    have hm : m / binade * binade + m % binade = m := Nat.div_add_mod' m binade
    have hlog := log2_binade_add (m % binade) (m / binade - 1) hf
    have hround : roundDiv ((binade + m % binade) <<< (m / binade - 1))
        (1 <<< (m / binade - 1)) = binade + m % binade := by
      rw [Nat.shiftLeft_eq, Nat.one_shiftLeft]
      exact roundDiv_mul_self _ (Nat.two_pow_pos _)
    have hsum : (m / binade - 1) * binade + (binade + m % binade) = m := by
      rw [← Nat.add_assoc, ← Nat.succ_mul, Nat.succ_eq_add_one, Nat.sub_add_cancel he, hm]
    rw [unitsOf, if_neg hsmall, nearest, Nat.div_one, hlog, Nat.add_sub_cancel_left, hround, hsum,
      Nat.min_eq_left h.le]

end Binary64

namespace Decimal

theorem decimalLength_mul_ten {n : Nat} (h : 0 < n) :
    decimalLength (n * 10) = decimalLength n + 1 := by
  have happend := Nat.toDigits_append_toDigits (b := 10) (n := n) (d := 0) (by decide) h (by decide)
  rw [Nat.add_zero, Nat.mul_comm] at happend
  rw [decimalLength, ← happend, List.length_append]
  rfl

theorem decimalLength_mul_pow {n : Nat} (h : 0 < n) (k : Nat) :
    decimalLength (n * 10 ^ k) = decimalLength n + k := by
  induction k with
  | zero => simp
  | succ k ih =>
    rw [Nat.pow_succ, ← Nat.mul_assoc,
      decimalLength_mul_ten (Nat.mul_pos h (Nat.pow_pos (by decide))), ih, Nat.add_assoc]

theorem decimalLength_le_iff {n k : Nat} (hk : 0 < k) : decimalLength n ≤ k ↔ n < 10 ^ k :=
  Nat.length_toDigits_le_iff (by decide) hk

theorem magnitude_mul_pow {c : Nat} (h : 0 < c) (k : Nat) (e : Int) :
    magnitude (c * 10 ^ k) e = magnitude c (e + k) := by
  have hck : 0 < c * 10 ^ k := Nat.mul_pos h (Nat.pow_pos (by decide))
  have hpoint : (decimalLength (c * 10 ^ k) : Int) + e = decimalLength c + (e + k) := by
    rw [decimalLength_mul_pow h]
    omega
  have hpow : 10 ^ k * 10 ^ e.toNat * 10 ^ (-(e + k)).toNat =
      10 ^ (e + k).toNat * 10 ^ (-e).toNat := by
    rw [← Nat.pow_add, ← Nat.pow_add, ← Nat.pow_add]
    congr 1
    omega
  have hnearest : Binary64.nearest (c * 10 ^ k * 10 ^ e.toNat * Binary64.unitsInOne)
      (10 ^ (-e).toNat) =
      Binary64.nearest (c * 10 ^ (e + k).toNat * Binary64.unitsInOne) (10 ^ (-(e + k)).toNat) := by
    refine Binary64.nearest_congr (Nat.pow_pos (by decide)) (Nat.pow_pos (by decide)) ?_
    calc c * 10 ^ k * 10 ^ e.toNat * Binary64.unitsInOne * 10 ^ (-(e + k)).toNat
        = c * Binary64.unitsInOne * (10 ^ k * 10 ^ e.toNat * 10 ^ (-(e + k)).toNat) := by ring
      _ = c * Binary64.unitsInOne * (10 ^ (e + k).toNat * 10 ^ (-e).toNat) := by rw [hpow]
      _ = c * 10 ^ (e + k).toNat * Binary64.unitsInOne * 10 ^ (-e).toNat := by ring
  have hten : ∀ n, powerOfTen n = 10 ^ n := fun _ => rfl
  simp only [magnitude, hpoint, hck.ne', h.ne', hten, hnearest]

end Decimal

namespace Binary64

theorem unitsOf_pos {m : Nat} (h : 0 < m) : 0 < unitsOf m := by
  have hb : 0 < binade := by decide
  unfold unitsOf
  split
  · exact h
  · rw [Nat.shiftLeft_eq]
    exact Nat.mul_pos (by omega) (Nat.two_pow_pos _)

theorem unitsOf_lt {m j : Nat} (h : m / binade ≤ j + 1) : unitsOf m < 2 ^ (53 + j) := by
  have hb : binade = 2 ^ 52 := rfl
  have hj : 0 < 2 ^ j := Nat.two_pow_pos j
  rw [Nat.pow_add]
  unfold unitsOf
  split
  · next hsmall =>
    exact Nat.lt_of_lt_of_le (Nat.lt_trans hsmall (by decide)) (Nat.le_mul_of_pos_right _ hj)
  · have hf : m % binade < binade := Nat.mod_lt _ (by decide)
    have hshift : 2 ^ (m / binade - 1) ≤ 2 ^ j := Nat.pow_le_pow_right (by decide) (by omega)
    rw [Nat.shiftLeft_eq]
    exact Nat.mul_lt_mul_of_lt_of_le (by omega) hshift hj

/-- Written out in full, a value of `u` units is `u * p / 10 ^ 1074`. The bounds keep `p` abstract,
as it has 751 digits. -/
theorem exists_exactDecimal_eq : ∃ p : Nat, (∀ u, exactDecimal u = (u * p, -1074)) ∧
    p * unitsInOne = Decimal.powerOfTen 1074 ∧ 10 ^ 750 ≤ p ∧ 2 ^ (53 + 2045) * p ≤ 10 ^ 1384 :=
  ⟨Nat.pow 5 1074, fun _ => rfl, by decide +kernel, by decide +kernel, by decide +kernel⟩

theorem magnitude_exactDecimal {m : Nat} (hpos : 0 < m) (h : m < infinityMagnitude) :
    Decimal.magnitude (exactDecimal (unitsOf m)).1 (exactDecimal (unitsOf m)).2 = m := by
  obtain ⟨p, hexact, hten, hlow, hhigh⟩ := exists_exactDecimal_eq
  have hu : 0 < unitsOf m := unitsOf_pos hpos
  have hlt : unitsOf m < 2 ^ (53 + 2045) :=
    unitsOf_lt (Nat.lt_succ_iff.mp ((Nat.div_lt_iff_lt_mul (by decide)).mpr h))
  have hp : 0 < p := Nat.lt_of_lt_of_le (Nat.pow_pos (by decide)) hlow
  have hleast : ¬Decimal.decimalLength (unitsOf m * p) ≤ 750 := by
    rw [Decimal.decimalLength_le_iff (by decide)]
    exact Nat.not_lt.mpr (Nat.le_trans hlow (Nat.le_mul_of_pos_left _ hu))
  have hlargest : Decimal.decimalLength (unitsOf m * p) ≤ 1384 := by
    rw [Decimal.decimalLength_le_iff (by decide)]
    exact Nat.lt_of_lt_of_le (Nat.mul_lt_mul_of_pos_right hlt hp) hhigh
  have hpow : 0 < Decimal.powerOfTen 1074 := by
    rw [← hten]
    exact Nat.mul_pos hp (by decide +kernel)
  have hvalue : nearest (unitsOf m * p * unitsInOne) (Decimal.powerOfTen 1074) = m := by
    refine (nearest_congr hpow Nat.one_pos ?_).trans (nearest_unitsOf h)
    rw [Nat.mul_one, Nat.mul_assoc, hten]
  have hne : ¬(unitsOf m * p = 0 ∨
      (Decimal.decimalLength (unitsOf m * p) : Int) + -1074 < -323) := by
    have := (Nat.mul_pos hu hp).ne'
    omega
  have hbeyond : ¬310 < (Decimal.decimalLength (unitsOf m * p) : Int) + -1074 := by omega
  have hplain : Decimal.powerOfTen (-1074 : Int).toNat = 1 := rfl
  have hplaces : (- -1074 : Int).toNat = 1074 := rfl
  rw [hexact]
  simp only [Decimal.magnitude, hplain, hplaces, Nat.mul_one, hvalue, Bool.or_eq_true,
    decide_eq_true_eq, if_neg hne, if_neg hbeyond]

end Binary64
end GameShelf
