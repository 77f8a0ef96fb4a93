import GameShelf.Proofs.Picks.Names
import GameShelf.Proofs.Shell.Run
import GameShelf.Proofs.Sorting

namespace GameShelf

namespace Query

def tags (rows : List Entry) : List (String × Int64) := rows.map fun e => (e.game.name, e.game.id)

theorem tags_run_eq (q : Query) {rows others : List Entry}
    (h : (rows.map Entry.game).Perm (others.map Entry.game)) :
    tags (q.run rows) = tags (q.run others) := by
  have hk := congrArg (List.map Prod.snd) (q.run_map_key_eq h)
  simpa [tags, SortOrder.key, Function.comp_def] using hk

theorem run_map_game_eq (q : Query) {rows others : List Entry}
    (h : (rows.map Entry.game).Perm (others.map Entry.game)) {catalog : List Game}
    (hu : Identified catalog) (hr : ∀ e ∈ rows, e.game ∈ catalog) :
    (q.run rows).map Entry.game = (q.run others).map Entry.game := by
  refine q.order.eq_of_perm_of_sorted id (q.run_map_game_perm h) ?_ ?_ ?_
  · simpa using q.sorted_run rows
  · simpa using q.sorted_run others
  · have hm : ∀ g ∈ (q.run rows).map Entry.game, g ∈ catalog := by
      intro g hg
      obtain ⟨e, he, rfl⟩ := List.mem_map.mp hg
      exact hr e (mem_of_mem_run he)
    intro a ha b hb
    exact hu.eq (hm a ha) (hm b hb)

end Query

namespace Shell

open Query (tags)

/-- Whether two shells have the same games before them, though maybe laid out differently. Ties in
what is shown are ties of name and id. -/
structure Alike (s t : Shell) : Prop where
  json : s.json = t.json
  catalog : s.search.catalog.Perm t.search.catalog
  working : (s.search.working.map Entry.game).Perm (t.search.working.map Entry.game)
  drawn : ∀ e ∈ s.search.working, e.game ∈ s.search.catalog
  shown : tags s.shown = tags t.shown
  picks : s.picks.Same t.picks

theorem mem_of_mem_entries {games : List Game} (e : Entry) (h : e ∈ entries games) :
    e.game ∈ games :=
  List.mem_of_getElem? ((mem_entries games e).mp h)

theorem alike_start {first second : List Game} (h : first.Perm second) (json : Bool) :
    Alike (start first json) (start second json) where
  json := rfl
  catalog := h
  working := entries_perm h
  drawn := mem_of_mem_entries
  shown := Query.tags_run_eq _ (entries_perm h)
  picks := fun _ => Iff.rfl

namespace Alike

variable {s t : Shell}

theorem filter (h : Alike s t) (words : List String) (sort : String) (descending : Bool) :
    Alike (s.filter words sort descending).1 (t.filter words sort descending).1 where
  json := h.json
  catalog := h.catalog
  working := Query.run_map_game_perm _ h.working
  drawn := fun e he => h.drawn e (Query.mem_of_mem_run he)
  shown := Query.tags_run_eq _ h.working
  picks := h.picks

theorem filter_request (h : Alike s t) (hu : Identified s.search.catalog) (words : List String)
    (sort : String) (descending : Bool) :
    (s.filter words sort descending).2 = (t.filter words sort descending).2 := by
  have hg := Query.run_map_game_eq
    ((Query.ofExpression (joinWords words)).orderBy
      (SortOrder.ofText sort (.ofAscending !descending)).column
      (SortOrder.ofText sort (.ofAscending !descending)).direction) h.working hu h.drawn
  simp only [Shell.filter, say, Search.query, Search.answer, hg, h.json]

theorem reset (h : Alike s t) : Alike s.reset.1 t.reset.1 where
  json := h.json
  catalog := h.catalog
  working := entries_perm h.catalog
  drawn := mem_of_mem_entries
  shown := Query.tags_run_eq _ (entries_perm h.catalog)
  picks := h.picks

theorem reset_request (h : Alike s t) : s.reset.2 = t.reset.2 := by
  have hl := (Query.run_map_game_perm .empty (entries_perm h.catalog)).length_eq
  simp only [List.length_map] at hl
  simp only [Shell.reset, say, Search.reset, Search.start, hl]

theorem shown_names (h : Alike s t) :
    (s.shown.map fun e => e.game.name) = t.shown.map fun e => e.game.name := by
  simpa [tags, Function.comp_def] using congrArg (List.map Prod.fst) h.shown

theorem runList (h : Alike s t) (action : ListAction) :
    Alike (s.runList action).1 (t.runList action).1 ∧
      (s.runList action).2 = (t.runList action).2 := by
  obtain ⟨hp, hr⟩ := runList_same h.picks h.shown_names action
  obtain ⟨picks, hs⟩ := runList_frame s action
  obtain ⟨others, ht⟩ := runList_frame t action
  rw [hs, ht] at hp ⊢
  exact ⟨{ h with picks := hp }, hr⟩

/-- One line keeps two shells alike, and they answer it alike. Only what a filter prints of a game
beside its name needs more, that no two games share name and id. -/
theorem execute (h : Alike s t) (line : String) :
    Alike (s.execute line).1 (t.execute line).1 ∧
      (Identified s.search.catalog → (s.execute line).2 = (t.execute line).2) := by
  cases hc : Command.ofLine? line with
  | none =>
    obtain ⟨request, -, -, hr⟩ := execute_of_none hc
    rw [hr, hr]
    exact ⟨h, fun _ => rfl⟩
  | some command =>
    rw [execute_of_some s hc, execute_of_some t hc]
    cases command with
    | filter words sort descending =>
      exact ⟨h.filter words sort descending, fun hu => h.filter_request hu words sort descending⟩
    | reset => exact ⟨h.reset, fun _ => h.reset_request⟩
    | list action =>
      obtain ⟨ha, hr⟩ := h.runList (action.getD .print)
      exact ⟨ha, fun _ => hr⟩
    | exit => exact ⟨h, fun _ => rfl⟩

theorem after (h : Alike s t) (lines : List String) : Alike (s.after lines) (t.after lines) := by
  induction lines generalizing s t with
  | nil => exact h
  | cons line lines ih =>
    rw [after_cons, after_cons]
    exact ih (h.execute line).1

end Alike

def outcomes (s : Shell) (files : Files) : List String → List Outcome
  | [] => []
  | line :: lines =>
    let (t, written, outcome) := s.perform files line
    outcome :: outcomes t written lines

theorem outcomes_cons (s : Shell) (files : Files) (line : String) (lines : List String) :
    s.outcomes files (line :: lines) =
      ((s.execute line).2.carryOut files).2 ::
        (s.execute line).1.outcomes ((s.execute line).2.carryOut files).1 lines := by
  rw [outcomes, perform_eq]

theorem Alike.outcomes_eq {s t : Shell} (h : Alike s t) (hu : Identified s.search.catalog)
    (files : Files) (lines : List String) : s.outcomes files lines = t.outcomes files lines := by
  induction lines generalizing s t files with
  | nil => rfl
  | cons line lines ih =>
    obtain ⟨ha, hr⟩ := h.execute line
    have hc : Identified (s.execute line).1.search.catalog := by rwa [catalog_execute]
    rw [outcomes_cons, outcomes_cons, ← hr hu, ih ha hc]

/-- Whatever way a catalog is laid out, the same lines leave the same list of names. Where name and
id identify a game they are also answered with the same texts, as long as writing a file comes out
the same. -/
theorem reproducible_of_perm {first second : List Game} (h : first.Perm second) (json : Bool) :
    (∀ lines, ((start first json).after lines).picks.names =
      ((start second json).after lines).picks.names) ∧
    (Identified first →
      (∀ lines line written,
        (((start first json).after lines).execute line).2.settle written =
          (((start second json).after lines).execute line).2.settle written) ∧
      ∀ files lines,
        (start first json).outcomes files lines = (start second json).outcomes files lines) := by
  have ha := alike_start h json
  refine ⟨fun lines => (ha.after lines).picks.names_eq, fun hu => ⟨?_, ha.outcomes_eq hu⟩⟩
  intro lines line written
  have hc : Identified ((start first json).after lines).search.catalog := by
    rwa [catalog_after]
  rw [((ha.after lines).execute line).2 hc]

theorem reproducible_of_swap :
    let go : Game := ⟨"Go", 1, 0, 2, 5, 0, 0, 2000, ⟨0x401E000000000000⟩, .zero⟩
    let chess : Game := ⟨"Chess", 7, 0, 2, 2, 0, 0, 2006, ⟨0x4024000000000000⟩, .zero⟩
    let lines :=
      ["filter minPlayers==2 -s rank", "list add GO", "list add 1", "list save picks.txt"]
    [go, chess].Perm [chess, go] ∧ Identified [go, chess] ∧
      ((start [go, chess] false).after lines).picks.names =
        ((start [chess, go] false).after lines).picks.names ∧
      (start [go, chess] false).outcomes .empty lines =
        (start [chess, go] false).outcomes .empty lines := by
  intro go chess lines
  have hp : [go, chess].Perm [chess, go] := List.Perm.swap chess go []
  have hu : Identified [go, chess] := by decide
  obtain ⟨hn, ho⟩ := reproducible_of_perm hp false
  exact ⟨hp, hu, hn lines, (ho hu).2 .empty lines⟩

end Shell
end GameShelf
