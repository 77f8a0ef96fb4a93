import GameShelf.Proofs.Sorting.Groups

namespace GameShelf.Query

theorem sort_narrow (q : Query) (rows : List Entry) :
    q.order.sort (q.narrow rows) = q.narrow (q.order.sort rows) := by
  have := transCmp_comap q.order.compare Entry.game
  rw [narrow_eq_filter, narrow_eq_filter]
  exact mergeSort_filter (fun a b : Entry => q.order.compare a.game b.game) _ rows

theorem sorted_narrow (q : Query) {rows : List Entry} (h : q.order.Sorted (rows.map Entry.game)) :
    q.order.Sorted ((q.narrow rows).map Entry.game) := by
  rw [narrow_map_game]
  exact h.filter _

/-- Narrowing and then sorting leaves the same rows in the same places as sorting and then
narrowing. What is left is in order, and rows that the order does not tell apart stand in the
sequence in which narrowing found them. -/
theorem narrowing_commutes_with_sorting (q : Query) (rows : List Entry) :
    q.order.sort (q.narrow rows) = q.narrow (q.order.sort rows) ∧
    q.order.Sorted ((q.narrow (q.order.sort rows)).map Entry.game) ∧
    ∀ a, q.order.tiedRows a (q.narrow (q.order.sort rows)) =
      q.order.tiedRows a (q.narrow rows) := by
  refine ⟨q.sort_narrow rows, q.sorted_narrow (q.order.sorted_sort rows), fun a => ?_⟩
  rw [← sort_narrow]
  exact q.order.tiedRows_sort a _

theorem isMet_of_subset {q other : Query} (h : other.conditions ⊆ q.conditions) {game : Game}
    (hm : q.isMet game = true) : other.isMet game = true :=
  List.all_eq_true.mpr fun c hc => List.all_eq_true.mp hm c (h hc)

section Congr

variable {q other : Query} (h : ∀ c, c ∈ other.conditions ↔ c ∈ q.conditions)
include h

theorem isMet_congr : other.isMet = q.isMet := by
  funext game
  rw [Bool.eq_iff_iff]
  constructor
  · exact isMet_of_subset fun c hc => (h c).mpr hc
  · exact isMet_of_subset fun c hc => (h c).mp hc

theorem narrow_congr : other.narrow = q.narrow := by
  funext rows
  rw [narrow_eq_filter, narrow_eq_filter, isMet_congr h]

theorem run_congr (ho : other.order = q.order) : other.run = q.run := by
  funext rows
  rw [run, run, narrow_congr h, ho]

theorem count_congr : other.count = q.count := by
  funext rows
  rw [count, count, isMet_congr h]

end Congr

/-- Narrowing condition by condition leaves the rows that meet all conditions, in their sequence.
The result has the same rows in the order asked for, and the count is their number. Conditions may
be put in any sequence and repeated. -/
theorem evaluations_agree (q : Query) (rows : List Entry) :
    q.narrow rows = rows.filter (fun e => q.isMet e.game) ∧
    (q.run rows).Perm (q.narrow rows) ∧ q.order.Sorted ((q.run rows).map Entry.game) ∧
    (q.narrow rows).length = q.count rows ∧ (q.run rows).length = q.count rows ∧
    ∀ other : Query, other.order = q.order →
      (∀ c, c ∈ other.conditions ↔ c ∈ q.conditions) →
        other.narrow rows = q.narrow rows ∧ other.run rows = q.run rows ∧
        other.count rows = q.count rows ∧ ∀ game, other.isMet game = q.isMet game := by
  refine ⟨q.narrow_eq_filter rows, q.run_perm_narrow rows, q.sorted_run rows, ?_, q.length_run rows,
    fun other ho hc => ?_⟩
  · rw [← (q.run_perm_narrow rows).length_eq, length_run]
  · rw [narrow_congr hc, run_congr hc ho, count_congr hc, isMet_congr hc]
    exact ⟨rfl, rfl, rfl, fun _ => rfl⟩

theorem evaluations_agree_of_repeated_conditions :
    let mistyped : Condition := ⟨.year, .ne, .string "2000"⟩
    let recent : Condition := ⟨.year, .gte, .integer 2000⟩
    let q := ((ofExpression "year>=2000, bogus").and mistyped).orderBy .year .descending
    let other : Query := ⟨[mistyped, recent, mistyped], q.order⟩
    let go : Game := { Game.named "Go" 1 with year := 2000 }
    let rows := entries [go, go]
    q.conditions = [recent, mistyped] ∧ other.order = q.order ∧
      (∀ c, c ∈ other.conditions ↔ c ∈ q.conditions) ∧ other.run rows = q.run rows ∧
      other.count rows = q.count rows := by
  intro mistyped recent q other go rows
  have hq : q.conditions = [recent, mistyped] := by decide
  have hsame : ∀ c, c ∈ other.conditions ↔ c ∈ q.conditions := by
    intro c
    rw [hq]
    simp only [other, List.mem_cons, List.not_mem_nil, or_false]
    tauto
  obtain ⟨-, -, -, -, -, hall⟩ := evaluations_agree q rows
  obtain ⟨-, hrun, hcount, -⟩ := hall other rfl hsame
  exact ⟨hq, rfl, hsame, hrun, hcount⟩

end GameShelf.Query
