import GameShelf.Proofs.Sorting
import GameShelf.Proofs.Sorting.Stable
import Mathlib.Data.List.SplitBy

namespace GameShelf

section Groups

variable {α : Type} (cmp : α → α → Ordering)

def tieGroups (l : List α) : List (List α) := l.splitBy fun a b => cmp a b == .eq

theorem flatten_tieGroups (l : List α) : (tieGroups cmp l).flatten = l :=
  List.flatten_splitBy _ l

variable [Std.TransCmp cmp]

theorem tied_of_mem_tieGroups {l g : List α} (hg : g ∈ tieGroups cmp l) {a b : α} (ha : a ∈ g)
    (hb : b ∈ g) : cmp a b = .eq := by
  have : Trans (fun a b => cmp a b = .eq) (fun a b => cmp a b = .eq) fun a b => cmp a b = .eq :=
    ⟨Std.TransCmp.eq_trans⟩
  have : Std.Symm fun a b => cmp a b = .eq := ⟨fun _ _ => Std.OrientedCmp.eq_symm⟩
  have hchain : g.IsChain fun a b => cmp a b = .eq := by
    simpa using List.isChain_of_mem_splitBy hg
  exact (List.isChain_iff_pairwise.mp hchain).forall_of_forall
    (fun _ _ => Std.ReflCmp.compare_self) ha hb

def GroupBefore (g h : List α) : Prop := h ≠ [] ∧ ∀ a ∈ g, ∀ b ∈ h, cmp a b = .lt

instance : Trans (GroupBefore cmp) (GroupBefore cmp) (GroupBefore cmp) where
  trans := fun {g h k} hgh hhk => by
    obtain ⟨b, hb⟩ := List.exists_mem_of_ne_nil h hgh.1
    exact ⟨hhk.1, fun a ha c hc => Std.TransCmp.lt_trans (hgh.2 a ha b hb) (hhk.2 b hb c hc)⟩

theorem tieGroups_pairwise {l : List α} (hl : l.Pairwise fun a b => (cmp a b).isLE) :
    (tieGroups cmp l).Pairwise (GroupBefore cmp) := by
  have hle := hl
  rw [← flatten_tieGroups cmp l, List.pairwise_flatten] at hle
  have hsep := List.isChain_iff_getElem.mp
    (List.isChain_getLast_head_splitBy (fun a b => cmp a b == .eq) l)
  rw [← List.isChain_iff_pairwise, List.isChain_iff_getElem]
  intro i hi
  -- where one group ends and the next begins, the elements are in order and not tied
  obtain ⟨hg, hh, hne⟩ := hsep i hi
  refine ⟨hh, fun a ha b hb => ?_⟩
  have hstep := List.pairwise_iff_getElem.mp hle.2 i (i + 1) (by omega) hi (by omega) _
    (List.getLast_mem hg) _ (List.head_mem hh)
  have hlt : cmp ((tieGroups cmp l)[i].getLast hg) ((tieGroups cmp l)[i + 1].head hh) = .lt := by
    rw [Ordering.isLE_iff_eq_lt_or_eq_eq] at hstep
    exact hstep.resolve_right (by simpa [tieGroups] using hne)
  have ha' := tied_of_mem_tieGroups cmp (List.getElem_mem _) ha (List.getLast_mem hg)
  have hb' := tied_of_mem_tieGroups cmp (List.getElem_mem _) (List.head_mem hh) hb
  exact Std.TransCmp.lt_of_eq_of_lt ha' (Std.TransCmp.lt_of_lt_of_eq hlt hb')

end Groups

theorem flatten_reverse_of_pairwise_nil {α : Type} {ls : List (List α)}
    (h : ls.Pairwise fun g h => g = [] ∨ h = []) : ls.reverse.flatten = ls.flatten := by
  induction ls with
  | nil => rfl
  | cons g ls ih =>
    rw [List.pairwise_cons] at h
    rw [List.reverse_cons, List.flatten_append, ih h.2, List.flatten_singleton, List.flatten_cons]
    by_cases hg : g = []
    · simp [hg]
    · have hls : ls.flatten = [] :=
        List.flatten_eq_nil_iff.mpr fun k hk => (h.1 k hk).resolve_left hg
      simp [hls]

namespace Column

abbrev ascending (column : Column) : SortOrder := ⟨column, .ascending⟩

abbrev descending (column : Column) : SortOrder := ⟨column, .descending⟩

/-- The maximal runs of rows that the column does not tell apart. -/
def groups (column : Column) (rows : List Entry) : List (List Entry) :=
  tieGroups (fun a b => column.compare a.game b.game) rows

end Column

namespace SortOrder

theorem of_sortable {column : Column} (h : column.kind ≠ .excluded) (direction : Direction) :
    of column direction = ⟨column, direction⟩ := if_neg h

theorem of_excluded {column : Column} (h : column.kind = .excluded) (direction : Direction) :
    of column direction = byName := if_pos h

theorem ofText_of_none {text : String} (h : Column.ofText? text = none) (direction : Direction) :
    ofText text direction = byName := by
  rw [ofText, h]

theorem column_isLE {column : Column} {direction : Direction} {a b : Game}
    (h : (SortOrder.compare ⟨column, direction⟩ a b).isLE) :
    (direction.apply (column.compare a b)).isLE :=
  (Ordering.isLE_then_iff_and.mp h).1

theorem column_isLE_of_ascending {column : Column} {a b : Game}
    (h : (column.ascending.compare a b).isLE) : (column.compare a b).isLE :=
  column_isLE h

theorem descending_isLE_of_lt {column : Column} {a b : Game} (h : column.compare b a = .lt) :
    (column.descending.compare a b).isLE := by
  have hgt : column.compare a b = .gt := Std.OrientedCmp.gt_iff_lt.mpr h
  rw [Column.compare] at hgt
  simp [compare, Direction.apply, hgt]

/-- What the column does not tell apart, name and id put in the same order in both directions. -/
theorem descending_eq_ascending {column : Column} {a b : Game} (h : column.compare a b = .eq) :
    column.descending.compare a b =
      column.ascending.compare a b := by
  rw [Column.compare] at h
  simp [compare, Direction.apply, h]

def tiedRows (order : SortOrder) (a : Entry) (rows : List Entry) : List Entry :=
  tiedWith (fun a b => order.compare a.game b.game) a rows

theorem sort_eq_of_tiedRows (order : SortOrder) {rows others : List Entry}
    (ho : order.Sorted (others.map Entry.game))
    (ht : ∀ a, order.tiedRows a others = order.tiedRows a rows) : order.sort rows = others := by
  have := transCmp_comap order.compare Entry.game
  have hs := List.pairwise_map.mp (order.sorted_sort rows)
  refine eq_of_tiedWith_eq (fun a b : Entry => order.compare a.game b.game) hs
    (List.pairwise_map.mp ho) fun a => ?_
  rw [sort, tiedWith_mergeSort]
  exact (ht a).symm

theorem tiedRows_sort (order : SortOrder) (a : Entry) (rows : List Entry) :
    order.tiedRows a (order.sort rows) = order.tiedRows a rows := by
  have := transCmp_comap order.compare Entry.game
  exact tiedWith_mergeSort (fun a b : Entry => order.compare a.game b.game) a rows

theorem tiedRows_descending (column : Column) (a : Entry) (rows : List Entry) :
    column.descending.tiedRows a rows =
      column.ascending.tiedRows a rows := by
  refine List.filter_congr fun b _ => ?_
  rw [Bool.eq_iff_iff, beq_iff_eq, beq_iff_eq, compare_eq_eq_iff, compare_eq_eq_iff]

section Groups

variable (column : Column) {rows : List Entry}

theorem groups_before (h : column.ascending.Sorted (rows.map Entry.game)) :
    (column.groups rows).Pairwise
      (GroupBefore fun a b : Entry => column.compare a.game b.game) := by
  have := transCmp_comap column.compare Entry.game
  exact tieGroups_pairwise (fun a b : Entry => column.compare a.game b.game)
    ((List.pairwise_map.mp h).imp column_isLE_of_ascending)

theorem tied_of_mem_groups {g : List Entry} (hg : g ∈ column.groups rows) {a b : Entry}
    (ha : a ∈ g) (hb : b ∈ g) : column.compare a.game b.game = .eq := by
  have := transCmp_comap column.compare Entry.game
  exact tied_of_mem_tieGroups (fun a b : Entry => column.compare a.game b.game) hg ha hb

theorem sorted_reverse_groups
    (h : column.ascending.Sorted (rows.map Entry.game)) :
    column.descending.Sorted
      ((column.groups rows).reverse.flatten.map Entry.game) := by
  have hasc := List.pairwise_map.mp h
  rw [← flatten_tieGroups (fun a b : Entry => column.compare a.game b.game) rows,
    List.pairwise_flatten] at hasc
  refine List.pairwise_map.mpr (List.pairwise_flatten.mpr ⟨fun g hg => ?_, ?_⟩)
  · -- within a group the directions do not differ
    have hg' : g ∈ column.groups rows := List.mem_reverse.mp hg
    refine (hasc.1 g hg').imp_of_mem fun ha hb hab => ?_
    rwa [descending_eq_ascending (tied_of_mem_groups column hg' ha hb)]
  · rw [List.pairwise_reverse]
    exact (groups_before column h).imp fun hgh a ha b hb => descending_isLE_of_lt (hgh.2 b hb a ha)

/-- Rows that are tied stand in one group, so turning the groups round keeps their sequence. -/
theorem tiedRows_reverse_groups
    (h : column.ascending.Sorted (rows.map Entry.game)) (a : Entry) :
    column.ascending.tiedRows a (column.groups rows).reverse.flatten =
      column.ascending.tiedRows a rows := by
  have htied : ∀ b, column.ascending.compare a.game b = .eq →
      column.compare a.game b = .eq := fun b hb =>
    Column.compare_of_value_eq ((compare_eq_eq_iff _ _ _).mp hb).1
  have hone : ((column.groups rows).map
      (List.filter fun b => column.ascending.compare a.game b.game == .eq)).Pairwise
      fun g k => g = [] ∨ k = [] := by
    refine List.pairwise_map.mpr ((groups_before column h).imp fun {g k} hgk => ?_)
    by_contra hne
    push Not at hne
    obtain ⟨b, hb⟩ := List.exists_mem_of_ne_nil _ hne.1
    obtain ⟨c, hc⟩ := List.exists_mem_of_ne_nil _ hne.2
    rw [List.mem_filter, beq_iff_eq] at hb hc
    have hbc : column.compare b.game c.game = .eq :=
      Std.TransCmp.eq_trans (Std.OrientedCmp.eq_symm (htied _ hb.2)) (htied _ hc.2)
    have hlt : column.compare b.game c.game = .lt := hgk.2 b hb.1 c hc.1
    rw [hlt] at hbc
    cases hbc
  rw [tiedRows, tiedWith, List.filter_flatten, List.map_reverse,
    flatten_reverse_of_pairwise_nil hone, ← List.filter_flatten, Column.groups, flatten_tieGroups]
  rfl

theorem sort_descending_eq {others : List Entry}
    (h : column.ascending.Sorted (rows.map Entry.game))
    (ht : ∀ a, column.ascending.tiedRows a others =
      column.ascending.tiedRows a rows) :
    column.descending.sort others = (column.groups rows).reverse.flatten := by
  refine sort_eq_of_tiedRows _ (sorted_reverse_groups column h) fun a => ?_
  rw [tiedRows_descending, tiedRows_descending, tiedRows_reverse_groups column h, ht]

theorem mem_groups_iff (h : column.ascending.Sorted (rows.map Entry.game)) {a b : Entry}
    (ha : a ∈ rows) (hb : b ∈ rows) :
    (∃ g ∈ column.groups rows, a ∈ g ∧ b ∈ g) ↔ column.compare a.game b.game = .eq := by
  refine ⟨fun ⟨g, hg, hag, hbg⟩ => tied_of_mem_groups column hg hag hbg, fun heq => ?_⟩
  have hflat : (column.groups rows).flatten = rows := flatten_tieGroups _ rows
  rw [← hflat] at ha hb
  obtain ⟨g, hg, hag⟩ := List.mem_flatten.mp ha
  obtain ⟨k, hk, hbk⟩ := List.mem_flatten.mp hb
  have hsep : ∀ {g k}, GroupBefore (fun a b : Entry => column.compare a.game b.game) g k →
      ∀ a ∈ g, ∀ b ∈ k, column.compare a.game b.game = .lt := fun h => h.2
  obtain ⟨i, hi, rfl⟩ := List.mem_iff_getElem.mp hg
  obtain ⟨j, hj, rfl⟩ := List.mem_iff_getElem.mp hk
  have hpair := List.pairwise_iff_getElem.mp (groups_before column h)
  rcases Nat.lt_trichotomy i j with hlt | rfl | hgt
  · rw [hsep (hpair i j hi hj hlt) a hag b hbk] at heq
    cases heq
  · exact ⟨_, hg, hag, hbk⟩
  · have hba := hsep (hpair j i hj hi hgt) b hbk a hag
    rw [Std.OrientedCmp.eq_symm heq] at hba
    cases hba

end Groups

/-- Downwards, the rows stand as upwards but with the groups that the column does not tell apart
in reverse, also where they are sorted upwards first. Where there is no column to sort by, both
directions give the order of names. -/
theorem sort_descending_eq_reverse_groups (rows : List Entry) :
    (∀ column : Column, column.kind ≠ .excluded →
      let upwards := (of column .ascending).sort rows
      let groups := column.groups upwards
      (groups.flatten = upwards ∧ [] ∉ groups ∧ ∀ a ∈ upwards, ∀ b ∈ upwards,
        (∃ g ∈ groups, a ∈ g ∧ b ∈ g) ↔ column.compare a.game b.game = .eq) ∧
      (of column .descending).sort rows = groups.reverse.flatten ∧
      (of column .descending).sort upwards = groups.reverse.flatten) ∧
    (∀ column : Column, column.kind = .excluded →
      ∀ direction, (of column direction).sort rows = byName.sort rows) ∧
    ∀ text, Column.ofText? text = none →
      ∀ direction, (ofText text direction).sort rows = byName.sort rows := by
  refine ⟨fun column h => ?_, fun column h direction => ?_, fun text h direction => ?_⟩
  · simp only [of_sortable h]
    have hs := column.ascending.sorted_sort rows
    refine ⟨⟨flatten_tieGroups _ _, List.nil_notMem_splitBy _ _, fun a ha b hb =>
      mem_groups_iff column hs ha hb⟩, ?_, ?_⟩
    · exact sort_descending_eq column hs fun a => (tiedRows_sort _ a rows).symm
    · exact sort_descending_eq column hs fun _ => rfl
  · rw [of_excluded h]
  · rw [ofText_of_none h]

theorem sort_descending_of_two_years :
    let rows := entries
      [⟨"Chess", 7, 0, 2, 2, 0, 0, 2000, .nan, .zero⟩, ⟨"Go", 1, 0, 2, 5, 0, 0, 2000, .nan, .zero⟩,
        ⟨"Go", 1, 0, 2, 5, 0, 0, 2000, .nan, .zero⟩, ⟨"go", 1, 0, 2, 2, 0, 0, 2006, .nan, .zero⟩]
    Column.year.kind ≠ .excluded ∧ Column.id.kind = .excluded ∧
      Column.ofText? "players" = none ∧
      ((of .year .descending).sort rows).map Entry.position = [3, 0, 1, 2] ∧
      (of .id .descending).sort rows = byName.sort rows ∧
      (ofText "players" .descending).sort rows = byName.sort rows := by
  intro rows
  have hyear : Column.year.kind ≠ .excluded := by decide
  have hid : Column.id.kind = .excluded := by decide
  have hnone : Column.ofText? "players" = none := by decide
  obtain ⟨hsorted, hexcluded, hunknown⟩ := sort_descending_eq_reverse_groups rows
  have hup : (of .year .ascending).sort rows = rows := List.mergeSort_of_pairwise (by decide)
  have hdown := (hsorted .year hyear).2.1
  rw [hup] at hdown
  refine ⟨hyear, hid, hnone, ?_, hexcluded .id hid .descending,
    hunknown "players" hnone .descending⟩
  rw [hdown]
  decide

end SortOrder
end GameShelf
