import GameShelf.Proofs.Comparison
import GameShelf.Query
import Mathlib.Data.List.Nodup

namespace GameShelf

/-- Whether no two games share both name and id. -/
def Identified (games : List Game) : Prop := (games.map fun g => (g.name, g.id)).Nodup

instance (games : List Game) : Decidable (Identified games) :=
  inferInstanceAs (Decidable (List.Nodup _))

theorem Identified.eq {games : List Game} (h : Identified games) {a b : Game} (ha : a ∈ games)
    (hb : b ∈ games) (hname : a.name = b.name) (hid : a.id = b.id) : a = b :=
  List.inj_on_of_nodup_map h ha hb (Prod.ext hname hid)

theorem Identified.entry_eq {games : List Game} (h : Identified games) {a b : Entry}
    (ha : a ∈ entries games) (hb : b ∈ entries games) (hname : a.game.name = b.game.name)
    (hid : a.game.id = b.game.id) : a = b := by
  have hk : ((entries games).map fun e => (e.game.name, e.game.id)).Nodup := by
    have hm : (entries games).map (fun e => (e.game.name, e.game.id)) =
        ((entries games).map Entry.game).map fun g => (g.name, g.id) := by simp
    rwa [hm, entries_game]
  exact List.inj_on_of_nodup_map hk ha hb (Prod.ext hname hid)

theorem entries_perm {first second : List Game} (h : first.Perm second) :
    ((entries first).map Entry.game).Perm ((entries second).map Entry.game) := by
  rwa [entries_game, entries_game]

namespace SortOrder

def key (order : SortOrder) (g : Game) : Value × String × Int64 :=
  (order.column.value g, g.name, g.id)

theorem compare_eq_eq_iff_key (order : SortOrder) (a b : Game) :
    order.compare a b = .eq ↔ order.key a = order.key b := by
  simp only [compare_eq_eq_iff, key, Prod.mk.injEq]

def Sorted (order : SortOrder) (games : List Game) : Prop :=
  games.Pairwise fun a b => (order.compare a b).isLE

instance (order : SortOrder) (games : List Game) : Decidable (order.Sorted games) :=
  inferInstanceAs (Decidable (games.Pairwise _))

theorem sorted_sort (order : SortOrder) (rows : List Entry) :
    order.Sorted ((order.sort rows).map Entry.game) := by
  have := transCmp_comap order.compare Entry.game
  exact List.pairwise_map.mpr
    (pairwise_mergeSort_isLE (fun a b : Entry => order.compare a.game b.game) rows)

theorem map_key_eq_of_perm (order : SortOrder) {games others : List Game}
    (hp : games.Perm others) (hg : order.Sorted games) (ho : order.Sorted others) :
    games.map order.key = others.map order.key := by
  -- The order of games carried over to keys, where it is antisymmetric.
  let le (k l : Value × String × Int64) : Prop :=
    ∃ a b, order.key a = k ∧ order.key b = l ∧ (order.compare a b).isLE
  have hle : ∀ l : List Game, order.Sorted l → (l.map order.key).Pairwise le := fun l hl =>
    List.pairwise_map.mpr (hl.imp fun {a b} hab => ⟨a, b, rfl, rfl, hab⟩)
  refine List.Perm.eq_of_pairwise ?_ (hle _ hg) (hle _ ho) (hp.map order.key)
  rintro k l - - ⟨a, b, rfl, rfl, hab⟩ ⟨b', a', hb, ha, hba⟩
  have hbb : (order.compare b b').isLE := by
    rw [(compare_eq_eq_iff_key order b b').mpr hb.symm]
    rfl
  have haa : (order.compare a' a).isLE := by
    rw [(compare_eq_eq_iff_key order a' a).mpr ha]
    rfl
  have hle : (order.compare b a).isLE :=
    Std.TransCmp.isLE_trans hbb (Std.TransCmp.isLE_trans hba haa)
  exact (compare_eq_eq_iff_key order a b).mp (Std.OrientedCmp.isLE_antisymm hab hle)

/-- Where name and id tell the rows apart, only one sequence of them is in order. -/
theorem eq_of_perm_of_sorted (order : SortOrder) {α : Type} (game : α → Game)
    {rows others : List α} (hp : rows.Perm others) (hr : order.Sorted (rows.map game))
    (ho : order.Sorted (others.map game))
    (hu : ∀ a ∈ rows, ∀ b ∈ rows,
      (game a).name = (game b).name → (game a).id = (game b).id → a = b) : rows = others := by
  have := transCmp_comap order.compare game
  refine eq_of_perm_of_isLE (fun a b => order.compare (game a) (game b)) hp
    (List.pairwise_map.mp hr) (List.pairwise_map.mp ho) ?_
  intro a ha b hb he
  obtain ⟨-, hname, hid⟩ := (compare_eq_eq_iff order (game a) (game b)).mp he
  exact hu a ha b hb hname hid

end SortOrder

namespace Query

theorem narrow_map_game (q : Query) (rows : List Entry) :
    (q.narrow rows).map Entry.game = (rows.map Entry.game).filter q.isMet := by
  rw [narrow_eq_filter, List.filter_map]
  rfl

theorem run_map_game_perm (q : Query) {rows others : List Entry}
    (h : (rows.map Entry.game).Perm (others.map Entry.game)) :
    ((q.run rows).map Entry.game).Perm ((q.run others).map Entry.game) := by
  have hn : ((q.narrow rows).map Entry.game).Perm ((q.narrow others).map Entry.game) := by
    rw [narrow_map_game, narrow_map_game]
    exact h.filter _
  exact ((q.run_perm_narrow rows).map _).trans (hn.trans ((q.run_perm_narrow others).map _).symm)

theorem sorted_run (q : Query) (rows : List Entry) : q.order.Sorted ((q.run rows).map Entry.game) :=
  q.order.sorted_sort _

theorem run_map_key_eq (q : Query) {rows others : List Entry}
    (h : (rows.map Entry.game).Perm (others.map Entry.game)) :
    ((q.run rows).map Entry.game).map q.order.key =
      ((q.run others).map Entry.game).map q.order.key :=
  q.order.map_key_eq_of_perm (q.run_map_game_perm h) (q.sorted_run rows) (q.sorted_run others)

end Query
end GameShelf
