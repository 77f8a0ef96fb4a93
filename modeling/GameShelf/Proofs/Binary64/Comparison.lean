import GameShelf.Binary64.Basic

namespace GameShelf.Binary64

theorem compare?_of_isNaN {a b : Binary64} (h : (a.isNaN || b.isNaN) = true) :
    a.compare? b = none := by
  rw [compare?, if_pos h]

theorem compare?_of_not_isNaN {a b : Binary64} (h : (a.isNaN || b.isNaN) = false) :
    a.compare? b = some (compare a.key b.key) := by
  rw [compare?, h]
  rfl

theorem compare?_eq_some_iff {a b : Binary64} {o : Ordering} :
    a.compare? b = some o ↔ a.isNaN = false ∧ b.isNaN = false ∧ compare a.key b.key = o := by
  cases hnan : a.isNaN || b.isNaN with
  | true =>
    rw [compare?_of_isNaN hnan]
    simp only [reduceCtorEq, false_iff]
    rintro ⟨ha, hb, -⟩
    simp [ha, hb] at hnan
  | false =>
    obtain ⟨ha, hb⟩ := Bool.or_eq_false_iff.mp hnan
    simp [compare?_of_not_isNaN hnan, ha, hb]

theorem compare?_eq_eq_iff {a b : Binary64} :
    a.compare? b = some .eq ↔ a.isNaN = false ∧ b.isNaN = false ∧ a.key = b.key := by
  rw [compare?_eq_some_iff, Std.LawfulEqCmp.compare_eq_iff_eq]

theorem distance_of_isNaN {a b : Binary64} (h : (a.isNaN || b.isNaN) = true) :
    a.distance b = nan := by
  rw [distance, if_pos h]

theorem isFinite_or_eq_infinity {x : Binary64} (h : x.isNaN = false) :
    x.isFinite = true ∨ x.magnitude = infinityMagnitude := by
  have hle : x.magnitude ≤ infinityMagnitude := by simpa [isNaN] using h
  exact (Nat.lt_or_eq_of_le hle).imp_left decide_eq_true

theorem magnitude_eq_of_key_eq {a b : Binary64} (h : a.key = b.key) :
    a.magnitude = b.magnitude ∧ (a.isNegative = b.isNegative ∨ a.magnitude = 0) := by
  unfold key at h
  cases ha : a.isNegative <;> cases hb : b.isNegative <;> simp [ha, hb] at h ⊢ <;> omega

theorem units_eq_of_key_eq {a b : Binary64} (h : a.key = b.key) : a.units = b.units := by
  obtain ⟨hm, hs | hz⟩ := magnitude_eq_of_key_eq h
  · rw [units, units, hs, hm]
  · have hzero : unitsOf 0 = 0 := rfl
    simp [units, ← hm, hz, hzero]

theorem eq_of_key_eq {a b : Binary64} (h : a.key = b.key) (hne : a.magnitude ≠ 0) : a = b := by
  obtain ⟨hm, hs | hz⟩ := magnitude_eq_of_key_eq h
  · rw [← ofMagnitude_magnitude a, hs, hm, ofMagnitude_magnitude]
  · exact absurd hz hne

theorem distance_of_key_eq {a b : Binary64} (ha : a.isNaN = false) (hb : b.isNaN = false)
    (h : a.key = b.key) : a.distance b = if a.isFinite then zero else nan := by
  have hm := (magnitude_eq_of_key_eq h).1
  have hf : b.isFinite = a.isFinite := by rw [isFinite, isFinite, hm]
  rcases isFinite_or_eq_infinity ha with hfin | hinf
  · have hnearest : ofMagnitude false (nearest 0 1) = zero := by decide
    simp [distance, ha, hb, hf, hfin, units_eq_of_key_eq h, hnearest]
  · have hne : a.magnitude ≠ 0 := by
      rw [hinf]
      decide
    obtain rfl := eq_of_key_eq h hne
    simp [distance, ha, isFinite, hinf]

end GameShelf.Binary64
