import GameShelf.Proofs.Shell.Reproducible

namespace GameShelf.Shell

/-- The answers to lines and the names listed after each of them. With every line goes what comes of
its writing, which counts if the line writes a file. -/
def transcript (s : Shell) : List (String × Except FileError Unit) → List (Outcome × List String)
  | [] => []
  | (line, written) :: rest =>
    let (t, request) := s.execute line
    (request.settle written, t.picks.names) :: transcript t rest

/-- A shell whose list was made in another way, but has the same names, does the same. -/
theorem execute_with_picks (s : Shell) {picks : Picks} (h : s.picks.Same picks) (line : String) :
    ∃ after : Picks, (s.execute line).1.picks.Same after ∧
      { s with picks }.execute line = ({ (s.execute line).1 with picks := after },
        (s.execute line).2) := by
  cases hc : Command.ofLine? line with
  | none =>
    obtain ⟨request, -, -, hr⟩ := execute_of_none hc
    rw [hr, hr]
    exact ⟨picks, h, rfl⟩
  | some command =>
    rw [execute_of_some s hc, execute_of_some { s with picks } hc]
    cases command with
    | filter words sort descending => exact ⟨picks, h, rfl⟩
    | reset => exact ⟨picks, h, rfl⟩
    | exit => exact ⟨picks, h, rfl⟩
    | list action =>
      let t : Shell := { s with picks }
      obtain ⟨hp, hr⟩ := runList_same (s := s) (t := t) h rfl (action.getD .print)
      obtain ⟨before, hs⟩ := runList_frame s (action.getD .print)
      obtain ⟨after, ht⟩ := runList_frame t (action.getD .print)
      refine ⟨after, ?_, ?_⟩
      · rw [ht] at hp
        exact hp
      · refine Prod.ext ?_ hr.symm
        simp only [run, hs]
        exact ht

theorem transcript_with_picks (s : Shell) {picks : Picks} (h : s.picks.Same picks)
    (script : List (String × Except FileError Unit)) :
    s.transcript script = { s with picks }.transcript script := by
  induction script generalizing s picks with
  | nil => rfl
  | cons entry rest ih =>
    obtain ⟨line, written⟩ := entry
    obtain ⟨after, ha, he⟩ := execute_with_picks s h line
    simp only [transcript, he, ha.names_eq, ih _ ha]

theorem outcomes_with_picks (s : Shell) {picks : Picks} (h : s.picks.Same picks) (files : Files)
    (lines : List String) : s.outcomes files lines = { s with picks }.outcomes files lines := by
  induction lines generalizing s picks files with
  | nil => rfl
  | cons line lines ih =>
    obtain ⟨after, ha, he⟩ := execute_with_picks s h line
    rw [outcomes_cons, outcomes_cons, he, ih _ ha]

theorem after_reset (catalog : List Game) (json : Bool) (lines : List String) {line : String}
    (h : Command.ofLine? line = some .reset) :
    (start catalog json).after (lines ++ [line]) =
      { start catalog json with picks := ((start catalog json).after lines).picks } := by
  have hc : ((start catalog json).after lines).search.catalog = catalog := catalog_after _ lines
  have hj : ((start catalog json).after lines).json = json := json_after _ lines
  rw [after_append, execute_of_some _ h]
  simp only [run, reset, say, Search.reset, hc, hj]
  rfl

/-- After a reset a shell cannot be told from one just started on the same catalog with the same
list of picks: whatever lines come next, they are answered alike and leave the same names listed, as
long as writing a file comes out the same. -/
theorem reset_is_fresh_start (catalog : List Game) (json : Bool) (lines : List String)
    {line : String} (h : Command.ofLine? line = some .reset) {picks : Picks}
    (hp : ((start catalog json).after (lines ++ [line])).picks.Same picks) :
    let s := (start catalog json).after (lines ++ [line])
    let fresh : Shell := { start catalog json with picks }
    s.picks.names = fresh.picks.names ∧
    (∀ script, s.transcript script = fresh.transcript script) ∧
    ∀ files later, s.outcomes files later = fresh.outcomes files later := by
  intro s fresh
  have hs : { s with picks } = fresh := by
    simp only [s, after_reset catalog json lines h]
    rfl
  rw [← hs]
  exact ⟨hp.names_eq, transcript_with_picks s hp, outcomes_with_picks s hp⟩

theorem reset_is_fresh_start_after_sort :
    let catalog : List Game :=
      [⟨"Go", 1, 0, 2, 5, 0, 0, 2000, ⟨0x401E000000000000⟩, .zero⟩,
        ⟨"Chess", 7, 0, 2, 2, 0, 0, 2006, ⟨0x4024000000000000⟩, .zero⟩,
        ⟨"Go", 1, 0, 2, 2, 0, 0, 2006, ⟨0x4024000000000000⟩, .zero⟩]
    let s := (start catalog true).after (["filter -s year -d", "list add 1-2"] ++ [" reset "])
    let picks : Picks := ⟨s.picks.members.reverse, List.nodup_reverse.mpr s.picks.nodup⟩
    let fresh : Shell := { start catalog true with picks }
    let script : List (String × Except FileError Unit) :=
      [("filter rating>7 -s rank", .ok ()), ("list add 2", .ok ()),
        ("list save picks.txt", .error .isDirectory)]
    Command.ofLine? " reset " = some .reset ∧ s.picks.Same picks ∧
      s.transcript script = fresh.transcript script := by
  intro catalog s picks fresh script
  have hc : Command.ofLine? " reset " = some .reset := by decide
  have hp : s.picks.Same picks := fun name => List.mem_reverse.symm
  obtain ⟨-, ht, -⟩ :=
    reset_is_fresh_start catalog true ["filter -s year -d", "list add 1-2"] hc hp
  exact ⟨hc, hp, ht script⟩

end GameShelf.Shell
