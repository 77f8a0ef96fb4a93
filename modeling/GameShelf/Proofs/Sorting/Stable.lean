import GameShelf.Proofs.Comparison

namespace GameShelf

variable {α : Type} (cmp : α → α → Ordering)

def tiedWith (a : α) (l : List α) : List α := l.filter fun b => cmp a b == .eq

theorem mem_tiedWith {a b : α} {l : List α} : b ∈ tiedWith cmp a l ↔ b ∈ l ∧ cmp a b = .eq := by
  simp [tiedWith]

theorem tiedWith_filter (keep : α → Bool) (a : α) (l : List α) :
    tiedWith cmp a (l.filter keep) = (tiedWith cmp a l).filter keep := by
  simp only [tiedWith, List.filter_filter, Bool.and_comm]

variable [Std.TransCmp cmp]

theorem tiedWith_mergeSort (a : α) (l : List α) :
    tiedWith cmp a (l.mergeSort fun b c => (cmp b c).isLE) = tiedWith cmp a l := by
  have hpair : (tiedWith cmp a l).Pairwise fun b c => (cmp b c).isLE := by
    refine List.pairwise_of_forall_mem_list fun b hb c hc => ?_
    have hba : cmp b a = .eq := Std.OrientedCmp.eq_symm ((mem_tiedWith cmp).mp hb).2
    have hac : cmp a c = .eq := ((mem_tiedWith cmp).mp hc).2
    rw [Std.TransCmp.eq_trans hba hac]
    rfl
  have hsub : (tiedWith cmp a l).Sublist (l.mergeSort fun b c => (cmp b c).isLE) :=
    List.sublist_mergeSort (fun _ _ _ => Std.TransCmp.isLE_trans) (isLE_total cmp) hpair
      List.filter_sublist
  have htied : tiedWith cmp a (tiedWith cmp a l) = tiedWith cmp a l := by
    simp [tiedWith, List.filter_filter]
  have hperm : (tiedWith cmp a (l.mergeSort fun b c => (cmp b c).isLE)).Perm (tiedWith cmp a l) :=
    (List.mergeSort_perm l _).filter _
  have hle := hsub.filter fun b => cmp a b == .eq
  rw [← tiedWith, htied] at hle
  exact (hle.eq_of_length hperm.length_eq.symm).symm

theorem mem_iff_of_tiedWith_eq {a : α} {l m : List α} (h : tiedWith cmp a l = tiedWith cmp a m) :
    a ∈ l ↔ a ∈ m := by
  have hself : cmp a a = .eq := Std.ReflCmp.compare_self
  have hmem : a ∈ tiedWith cmp a l ↔ a ∈ tiedWith cmp a m := by rw [h]
  simpa [mem_tiedWith, hself] using hmem

theorem head_isLE {a b : α} {l : List α} (hl : (a :: l).Pairwise fun a b => (cmp a b).isLE)
    (hb : b ∈ a :: l) : (cmp a b).isLE := by
  rcases List.mem_cons.mp hb with rfl | hb
  · exact Std.ReflCmp.isLE_rfl
  · exact List.rel_of_pairwise_cons hl hb

/-- Two lists in order are equal if all their ties stand in the same sequence. -/
theorem eq_of_tiedWith_eq {l m : List α} (hl : l.Pairwise fun a b => (cmp a b).isLE)
    (hm : m.Pairwise fun a b => (cmp a b).isLE)
    (ht : ∀ a, tiedWith cmp a l = tiedWith cmp a m) : l = m := by
  have hmem : ∀ a, a ∈ l ↔ a ∈ m := fun a => mem_iff_of_tiedWith_eq cmp (ht a)
  induction l generalizing m with
  | nil =>
    exact (List.eq_nil_iff_forall_not_mem.mpr fun a ha => by simpa using (hmem a).mpr ha).symm
  | cons a l ih =>
    cases m with
    | nil => simpa using hmem a
    | cons b m =>
      -- both heads are least, so they are tied, and then each is the first of the same ties
      have hab : (cmp a b).isLE := head_isLE cmp hl ((hmem b).mpr (by simp))
      have hba : (cmp b a).isLE := head_isLE cmp hm ((hmem a).mp (by simp))
      have he : cmp a b = .eq := Std.OrientedCmp.isLE_antisymm hab hba
      have hself : cmp a a = .eq := Std.ReflCmp.compare_self
      have hhead := ht a
      simp only [tiedWith, List.filter_cons, hself, he, beq_self_eq_true, if_true,
        List.cons.injEq] at hhead
      obtain ⟨rfl, -⟩ := hhead
      have htail : ∀ c, tiedWith cmp c l = tiedWith cmp c m := by
        intro c
        have hc := ht c
        simp only [tiedWith, List.filter_cons] at hc
        split at hc
        · exact (List.cons.inj hc).2
        · exact hc
      rw [ih hl.of_cons hm.of_cons htail fun c => mem_iff_of_tiedWith_eq cmp (htail c)]

/-- Elements may be left out before or after the sorting: either way the rest is in order, and its
ties stand as they stood. -/
theorem mergeSort_filter (keep : α → Bool) (l : List α) :
    (l.filter keep).mergeSort (fun a b => (cmp a b).isLE) =
      (l.mergeSort fun a b => (cmp a b).isLE).filter keep := by
  refine eq_of_tiedWith_eq cmp (pairwise_mergeSort_isLE cmp _)
    ((pairwise_mergeSort_isLE cmp l).filter keep) fun a => ?_
  rw [tiedWith_mergeSort, tiedWith_filter, tiedWith_filter, tiedWith_mergeSort]

end GameShelf
