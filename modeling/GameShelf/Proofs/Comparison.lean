import GameShelf.SortOrder

namespace GameShelf

namespace Binary64

theorem eq_of_rank_eq {a b : Binary64} (h : a.rank = b.rank) : a = b := by
  have hs : a.isNegative = b.isNegative ∧ a.magnitude = b.magnitude := by
    unfold rank at h
    split at h <;> split at h <;> simp_all <;> omega
  have hbits : a.bits.toNat = b.bits.toNat := by rw [toNat_bits, toNat_bits, hs.1, hs.2]
  cases a
  cases b
  exact congrArg _ (UInt64.toNat_inj.mp hbits)

instance : Std.TransCmp totalCompare :=
  inferInstanceAs (Std.TransCmp (compareOn rank))

theorem eq_of_totalCompare {a b : Binary64} (h : a.totalCompare b = .eq) : a = b :=
  eq_of_rank_eq (Std.LawfulEqOrd.eq_of_compare h)

end Binary64

instance : Std.TransCmp foldCompare :=
  inferInstanceAs (Std.TransCmp (compareOn fun s : String => foldChars s.toList))

instance : Std.TransCmp nameCompare :=
  inferInstanceAs (Std.TransCmp (compareLex foldCompare (compare : String → String → Ordering)))

instance : Std.LawfulEqCmp nameCompare where
  eq_of_compare h := Std.LawfulEqOrd.eq_of_compare (Ordering.then_eq_eq.mp h).2

namespace Direction

theorem apply_eq_eq (d : Direction) (o : Ordering) : d.apply o = .eq ↔ o = .eq := by
  cases d <;> cases o <;> decide

instance (d : Direction) {α : Type} (cmp : α → α → Ordering) [Std.TransCmp cmp] :
    Std.TransCmp fun a b => d.apply (cmp a b) :=
  match d with
  | .ascending => inferInstanceAs (Std.TransCmp cmp)
  | .descending =>
    { eq_swap := congrArg Ordering.swap Std.OrientedCmp.eq_swap
      isLE_trans := fun {a b c} hab hbc => by
        simp only [apply, Ordering.isLE_swap] at hab hbc ⊢
        exact Std.TransCmp.isGE_trans hab hbc }

end Direction

section Sorting

variable {α : Type} (cmp : α → α → Ordering) [Std.TransCmp cmp]

theorem isLE_total (a b : α) : ((cmp a b).isLE || (cmp b a).isLE) = true := by
  have hs : cmp b a = (cmp a b).swap := Std.OrientedCmp.eq_swap
  rw [hs]
  cases cmp a b <;> rfl

theorem pairwise_mergeSort_isLE (l : List α) :
    (l.mergeSort fun a b => (cmp a b).isLE).Pairwise fun a b => (cmp a b).isLE :=
  List.pairwise_mergeSort (fun _ _ _ => Std.TransCmp.isLE_trans) (isLE_total cmp) l

theorem eq_of_perm_of_isLE {l m : List α} (hp : l.Perm m)
    (hl : l.Pairwise fun a b => (cmp a b).isLE) (hm : m.Pairwise fun a b => (cmp a b).isLE)
    (he : ∀ a ∈ l, ∀ b ∈ l, cmp a b = .eq → a = b) : l = m := by
  refine List.Perm.eq_of_pairwise ?_ hl hm hp
  intro a b ha hb hab hba
  exact he a ha b (hp.mem_iff.mpr hb) (Std.OrientedCmp.isLE_antisymm hab hba)

end Sorting

theorem transCmp_comap {α β : Type} (cmp : β → β → Ordering) [Std.TransCmp cmp] (f : α → β) :
    Std.TransCmp fun a b => cmp (f a) (f b) where
  eq_swap := Std.OrientedCmp.eq_swap
  isLE_trans := Std.TransCmp.isLE_trans

namespace Column

def compare (column : Column) (a b : Game) : Ordering := (column.value a).compare (column.value b)

/-- All values of one column have one kind. Values of different kinds compare as equal, so an order
of all values would not be transitive. -/
instance (column : Column) : Std.TransCmp column.compare := by
  cases column with
  | name => exact transCmp_comap foldCompare Game.name
  | id => exact transCmp_comap Ord.compare Game.id
  | rank => exact transCmp_comap Ord.compare Game.rank
  | minPlayers => exact transCmp_comap Ord.compare Game.minPlayers
  | maxPlayers => exact transCmp_comap Ord.compare Game.maxPlayers
  | minTime => exact transCmp_comap Ord.compare Game.minTime
  | maxTime => exact transCmp_comap Ord.compare Game.maxTime
  | year => exact transCmp_comap Ord.compare Game.year
  | rating => exact transCmp_comap Binary64.totalCompare Game.rating
  | difficulty => exact transCmp_comap Binary64.totalCompare Game.difficulty

/-- Names that differ in case alone compare as equal, so for the name column equality of the values
needs the names to be equal. -/
theorem value_eq_of_compare {column : Column} {a b : Game} (h : column.compare a b = .eq)
    (hn : a.name = b.name) : column.value a = column.value b := by
  cases column with
  | name => exact congrArg Value.string hn
  | rating | difficulty => exact congrArg Value.real (Binary64.eq_of_totalCompare h)
  | id | rank | minPlayers | maxPlayers | minTime | maxTime | year =>
    exact congrArg Value.integer (Std.LawfulEqOrd.eq_of_compare h)

theorem compare_of_value_eq {column : Column} {a b : Game} (h : column.value a = column.value b) :
    column.compare a b = .eq := by
  have hs : column.compare a a = .eq := Std.ReflCmp.compare_self
  rwa [compare, h] at hs ⊢

end Column

namespace SortOrder

theorem compare_eq_then (order : SortOrder) :
    order.compare = compareLex (fun a b => order.direction.apply (order.column.compare a b))
      (compareLex (fun a b => nameCompare a.name b.name) (compareOn Game.id)) :=
  rfl

instance (order : SortOrder) : Std.TransCmp order.compare := by
  have := transCmp_comap nameCompare Game.name
  rw [compare_eq_then]
  infer_instance

theorem compare_eq_eq_iff (order : SortOrder) (a b : Game) :
    order.compare a b = .eq ↔
      order.column.value a = order.column.value b ∧ a.name = b.name ∧ a.id = b.id := by
  have hn : nameCompare a.name b.name = .eq ↔ a.name = b.name := Std.LawfulEqCmp.compare_eq_iff_eq
  have hi : Ord.compare a.id b.id = .eq ↔ a.id = b.id := Std.LawfulEqCmp.compare_eq_iff_eq
  simp only [compare, Ordering.then_eq_eq, Direction.apply_eq_eq, hn, hi]
  constructor
  · rintro ⟨hv, hname, hid⟩
    exact ⟨Column.value_eq_of_compare hv hname, hname, hid⟩
  · rintro ⟨hv, hname, hid⟩
    exact ⟨Column.compare_of_value_eq hv, hname, hid⟩

/-- Every order of games is a total preorder, whatever its column and direction, and ties only games
that have the same name, the same id and the same value in the column, reals bit by bit. -/
theorem compare_total_preorder (column : Column) (direction : Direction) :
    let order := of column direction
    (∀ a b, order.compare a b = (order.compare b a).swap) ∧
    (∀ a b c, (order.compare a b).isLE → (order.compare b c).isLE → (order.compare a c).isLE) ∧
    ∀ a b, order.compare a b = .eq ↔
      a.name = b.name ∧ a.id = b.id ∧ order.column.value a = order.column.value b := by
  intro order
  refine ⟨fun a b => Std.OrientedCmp.eq_swap, fun a b c => Std.TransCmp.isLE_trans, fun a b => ?_⟩
  rw [compare_eq_eq_iff, and_comm, and_assoc]

theorem compare_total_preorder_of_zeros :
    let game (rating : Binary64) : Game := ⟨"Go", 1, 0, 2, 5, 0, 0, 2000, rating, .zero⟩
    let order := of .rating .descending
    let minusZero : Binary64 := ⟨0x8000000000000000⟩
    (order.compare (game .nan) (game .zero)).isLE ∧
      (order.compare (game .zero) (game minusZero)).isLE ∧
      (order.compare (game .nan) (game minusZero)).isLE ∧
      order.compare (game .zero) (game minusZero) ≠ .eq := by
  intro game order minusZero
  obtain ⟨-, htrans, heq⟩ := compare_total_preorder .rating .descending
  have hnan : (order.compare (game .nan) (game .zero)).isLE := by decide
  have hzero : (order.compare (game .zero) (game minusZero)).isLE := by decide
  refine ⟨hnan, hzero, htrans _ _ _ hnan hzero, fun h => ?_⟩
  have hv := ((heq _ _).mp h).2.2
  revert hv
  decide

end SortOrder
end GameShelf
