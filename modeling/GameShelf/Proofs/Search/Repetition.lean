import GameShelf.Proofs.Condition.Segments
import GameShelf.Proofs.Query
import GameShelf.Proofs.Search.Run

namespace GameShelf

theorem SortOrder.sort_of_sorted {order : SortOrder} {rows : List Entry}
    (h : order.Sorted (rows.map Entry.game)) : order.sort rows = rows :=
  List.mergeSort_of_pairwise (List.pairwise_map.mp h)

namespace Query

theorem run_of_sorted {q : Query} {rows : List Entry}
    (hs : q.order.Sorted (rows.map Entry.game)) (hm : ∀ e ∈ rows, q.isMet e.game = true) :
    q.run rows = rows := by
  have hn : q.narrow rows = rows := by
    rw [narrow_eq_filter]
    exact List.filter_eq_self.mpr hm
  rw [run, hn, SortOrder.sort_of_sorted hs]

/-- A result is left alone by every query in its order that asks for nothing it was not asked. -/
theorem run_run_of_subset (first second : Query) (ho : second.order = first.order)
    (hc : second.conditions ⊆ first.conditions) (rows : List Entry) :
    second.run (first.run rows) = first.run rows := by
  apply run_of_sorted
  · rw [ho]
    exact first.sorted_run rows
  · intro e he
    exact isMet_of_subset hc (mem_run.mp he).2

end Query

namespace Search

theorem query_query_of_subset (s : Search) {first second : String} (column : Column)
    (direction : Direction)
    (h : (Query.ofExpression second).conditions ⊆ (Query.ofExpression first).conditions) :
    (s.query first column direction).query second column direction =
      s.query first column direction := by
  have hrun := Query.run_run_of_subset ((Query.ofExpression first).orderBy column direction)
    ((Query.ofExpression second).orderBy column direction) rfl h s.working
  simp only [query, hrun]

/-- After any calls, a query asked once more answers the same rows in the same places and leaves the
search as it is, and so does a blank expression with its column and direction. -/
theorem query_again_changes_nothing (catalog : List Game) (calls : List Call)
    (expression : String) (column : Column) (direction : Direction) :
    let asked := Call.query expression column direction
    let first := ((start catalog).run calls).call asked
    first.1.call asked = first ∧
      ∀ blank : String, IsBlanks blank.toList →
        first.1.call (.query blank column direction) = first := by
  intro asked first
  refine ⟨?_, fun blank hblank => ?_⟩
  · have hsame := ((start catalog).run calls).query_query_of_subset column direction
      (List.Subset.refl (Query.ofExpression expression).conditions)
    exact congrArg answered hsame
  · have hnone : (Query.ofExpression blank).conditions ⊆
        (Query.ofExpression expression).conditions := by
      rw [Query.conditions_of_isBlanks hblank]
      exact List.nil_subset _
    exact congrArg answered
      (((start catalog).run calls).query_query_of_subset column direction hnone)

theorem query_again_changes_nothing_among_ties :
    let go : Game := ⟨"Go", 1, 0, 2, 5, 0, 0, 2000, ⟨0x401E000000000000⟩, .zero⟩
    let catalog := [go, { go with rating := .nan }, go]
    let asked := Call.query "rating>=7, bogus" .id .descending
    let first := ((start catalog).run [.filter "name==go"]).call asked
    IsBlanks " \t".toList ∧ first.1.call asked = first ∧
      first.1.call (.query " \t" .id .descending) = first := by
  intro go catalog asked first
  have hblank : IsBlanks " \t".toList := by decide
  obtain ⟨hsame, hnone⟩ :=
    query_again_changes_nothing catalog [.filter "name==go"] "rating>=7, bogus" .id .descending
  exact ⟨hblank, hsame, hnone _ hblank⟩

end Search
end GameShelf
