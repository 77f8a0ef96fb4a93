import GameShelf.Proofs.Shell.Run
import GameShelf.Proofs.Text.Trim

namespace GameShelf

def Request.writing (request : Request) (files : Files) : Except FileError Unit :=
  match request with
  | .save path text _ => (files.write path text).map fun _ => ()
  | _ => .ok ()

theorem Request.carryOut_answer (request : Request) (files : Files) :
    (request.carryOut files).2 = request.settle (request.writing files) := by
  cases request with
  | answer outcome | refuse refusal => rfl
  | save path text count =>
    have hs : ((save path text count).carryOut files).2 =
        (save path text count).settle (Files.store path text files).1 := rfl
    rw [hs, Files.store, writing]
    cases files.write path text <;> rfl

namespace Shell

/-- The ways for a line to fail: before there is a command in it, or because its selector or its
writing fails. `written` is what comes of the writing. -/
inductive Fails (s : Shell) (line : String) (written : Except FileError Unit) : Prop
  | blank (h : IsBlanks line.toList)
  | unsplit (h : Words.split? (trim line) = none)
  | refused {words : List String} {refusal : Refusal} (hw : Words.split? (trim line) = some words)
    (h : Command.read words = .error refusal)
  | add {words : List String} {e : SelectorError}
    (hc : Command.ofLine? line = some (.list (some (.add words))))
    (h : s.picks.add (joinWords words) (s.shown.map fun e => e.game.name) = .error e)
  | remove {words : List String} {e : SelectorError}
    (hc : Command.ofLine? line = some (.list (some (.remove words))))
    (h : s.picks.remove (joinWords words) = .error e)
  | save {path : String} {e : FileError}
    (hc : Command.ofLine? line = some (.list (some (.save path)))) (h : written = .error e)

theorem trim_of_blanks {line : String} (h : IsBlanks line.toList) : (trim line).isEmpty = true := by
  have hd : line.toList.dropWhile isBlank = [] := List.dropWhile_eq_nil_iff.mpr h
  rw [trim, isEmpty_ofList, trimChars, trimBy, hd]
  rfl

theorem settle_of_none (s : Shell) {line : String} (h : Command.ofLine? line = none)
    (written : Except FileError Unit) :
    (s.execute line).1 = s ∧ ∃ text, (s.execute line).2.settle written = .say text := by
  obtain ⟨request, text, ht, hr⟩ := execute_of_none h
  rw [hr]
  exact ⟨rfl, text, ht written⟩

theorem execute_of_fails (s : Shell) {line : String} {written : Except FileError Unit}
    (h : s.Fails line written) :
    (s.execute line).1 = s ∧ ∃ text, (s.execute line).2.settle written = .say text := by
  cases h with
  | blank h => exact settle_of_none s (ofLine?_of_isEmpty (trim_of_blanks h)) written
  | unsplit h => exact settle_of_none s (by rw [Command.ofLine?, h]; rfl) written
  | refused hw h =>
    refine settle_of_none s ?_ written
    rw [Command.ofLine?, hw, Option.bind_some, h]
    rfl
  | add hc h | remove hc h =>
    rw [execute_of_some s hc]
    simp only [run, runList, Option.getD_some, h, changePicks]
    exact ⟨rfl, _, rfl⟩
  | save hc h =>
    rw [execute_of_some s hc, h]
    exact ⟨rfl, _, rfl⟩

/-- A line that is blank, cannot be split, makes no command, or fails in its selector or its writing
leaves the working set, the games shown and the list of picks as they were, and the shell goes on.
Filters and resets never touch the list, and commands on the list never touch the rest. -/
theorem failure_changes_nothing (s : Shell) (line : String) :
    (∀ written, s.Fails line written →
      (s.execute line).1 = s ∧ ∃ text, (s.execute line).2.settle written = .say text) ∧
    (∀ words sort descending, Command.ofLine? line = some (.filter words sort descending) →
      (s.execute line).1.picks = s.picks) ∧
    (Command.ofLine? line = some .reset → (s.execute line).1.picks = s.picks) ∧
    (∀ action, Command.ofLine? line = some (.list action) →
      (s.execute line).1.search = s.search ∧ (s.execute line).1.shown = s.shown) ∧
    ∀ files, (s.perform files line).1 = (s.execute line).1 ∧
      (s.perform files line).2.2 =
        (s.execute line).2.settle ((s.execute line).2.writing files) := by
  refine ⟨fun written h => execute_of_fails s h, ?_, ?_, ?_, fun files => ?_⟩
  · intro words sort descending hc
    rw [execute_of_some s hc]
    rfl
  · intro hc
    rw [execute_of_some s hc]
    rfl
  · intro action hc
    obtain ⟨picks, hp⟩ := runList_frame s (action.getD .print)
    rw [execute_of_some s hc, run, hp]
    exact ⟨rfl, rfl⟩
  · rw [perform_eq, Request.carryOut_answer]
    exact ⟨rfl, rfl⟩

theorem failure_changes_nothing_of_four_lines :
    let go : Game := ⟨"Go", 1, 0, 2, 5, 0, 0, 2000, ⟨0x401E000000000000⟩, .zero⟩
    let s := (start [go] false).after ["filter rating>7", "list add go"]
    (s.Fails "list add 'Go" (.ok ()) ∧ (s.execute "list add 'Go").1 = s) ∧
    (s.Fails "list add" (.ok ()) ∧ (s.execute "list add").1 = s) ∧
    (s.Fails "list remove ' '" (.ok ()) ∧ (s.execute "list remove ' '").1 = s) ∧
    s.Fails "list save picks" (.error .isDirectory) ∧ (s.execute "list save picks").1 = s ∧
    ∃ text, (s.execute "list save picks").2.settle (.error .isDirectory) = .say text := by
  intro go s
  have hopen : s.Fails "list add 'Go" (.ok ()) := .unsplit (by decide)
  have hfew : s.Fails "list add" (.ok ()) := by
    have hw : Words.split? (trim "list add") = some ["list", "add"] := by decide
    have hr : Command.read ["list", "add"] =
        .error (.misuse (.argumentMissing "<SELECTOR>...")) := by decide
    exact .refused hw hr
  have hblank : s.Fails "list remove ' '" (.ok ()) := by
    have hc : Command.ofLine? "list remove ' '" = some (.list (some (.remove [" "]))) := by decide
    have hr : s.picks.remove (joinWords [" "]) = .error (.empty .remove) := rfl
    exact .remove hc hr
  have hsave : s.Fails "list save picks" (.error .isDirectory) := by
    have hc : Command.ofLine? "list save picks" = some (.list (some (.save "picks"))) := by decide
    exact .save hc rfl
  refine ⟨⟨hopen, ?_⟩, ⟨hfew, ?_⟩, ⟨hblank, ?_⟩, hsave, ?_⟩
  · exact ((failure_changes_nothing s "list add 'Go").1 _ hopen).1
  · exact ((failure_changes_nothing s "list add").1 _ hfew).1
  · exact ((failure_changes_nothing s "list remove ' '").1 _ hblank).1
  · exact (failure_changes_nothing s "list save picks").1 _ hsave

end Shell
end GameShelf
