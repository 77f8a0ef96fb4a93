import GameShelf.Proofs.Picks.Names
import GameShelf.Shell
import Mathlib.Data.List.Induction

namespace GameShelf

/-- The command in a line. Blank lines, lines with an open quote and refused words have none. -/
def Command.ofLine? (line : String) : Option Command :=
  (Words.split? (trim line)).bind fun words => (Command.read words).toOption

namespace Shell

def after (s : Shell) (lines : List String) : Shell :=
  lines.foldl (fun s line => (s.execute line).1) s

theorem after_cons (s : Shell) (line : String) (lines : List String) :
    s.after (line :: lines) = (s.execute line).1.after lines := by
  simp only [after, List.foldl_cons]

theorem after_append (s : Shell) (lines : List String) (line : String) :
    s.after (lines ++ [line]) = ((s.after lines).execute line).1 := by
  simp [after]

theorem ofLine?_of_isEmpty {line : String} (h : (trim line).isEmpty = true) :
    Command.ofLine? line = none := by
  rw [Command.ofLine?, String.isEmpty_iff.mp h]
  rfl

theorem execute_of_some (s : Shell) {line : String} {command : Command}
    (h : Command.ofLine? line = some command) : s.execute line = s.run command := by
  have he : (trim line).isEmpty = false := by
    cases he : (trim line).isEmpty with
    | false => rfl
    | true => simp [ofLine?_of_isEmpty he] at h
  obtain ⟨words, hw, hc⟩ := Option.bind_eq_some_iff.mp h
  simp only [execute, he, hw, Bool.false_eq_true, if_false]
  cases hr : Command.read words with
  | error refusal => simp [hr, Except.toOption] at hc
  | ok read =>
    rw [hr] at hc
    cases hc
    rfl

theorem execute_of_none {line : String} (h : Command.ofLine? line = none) :
    ∃ request text, (∀ written, request.settle written = .say text) ∧
      ∀ s : Shell, s.execute line = (s, request) := by
  cases he : (trim line).isEmpty with
  | true =>
    refine ⟨.answer (.say ""), _, fun _ => rfl, fun s => ?_⟩
    simp only [execute, he, if_true]
    rfl
  | false =>
    cases hw : Words.split? (trim line) with
    | none =>
      refine ⟨.answer (.say "error: missing closing quote"), _, fun _ => rfl, fun s => ?_⟩
      simp only [execute, he, hw, Bool.false_eq_true, if_false]
      rfl
    | some words =>
      cases hr : Command.read words with
      | error refusal =>
        refine ⟨.refuse refusal, _, fun _ => rfl, fun s => ?_⟩
        simp only [execute, he, hw, hr, Bool.false_eq_true, if_false]
      | ok command => simp [Command.ofLine?, hw, hr, Except.toOption] at h

theorem perform_eq (s : Shell) (files : Files) (line : String) :
    s.perform files line = ((s.execute line).1, (s.execute line).2.carryOut files) := by
  rw [perform]

theorem runList_frame (s : Shell) (action : ListAction) :
    ∃ picks, (s.runList action).1 = { s with picks } := by
  have hc : ∀ changed, ∃ picks, (s.changePicks changed).1 = { s with picks } := by
    intro changed
    cases changed with
    | ok picks => exact ⟨picks, rfl⟩
    | error e => exact ⟨s.picks, rfl⟩
  cases action with
  | print | count | save path => exact ⟨s.picks, rfl⟩
  | clear => exact ⟨.empty, rfl⟩
  | add words => exact hc _
  | remove words => exact hc _

theorem changePicks_same {s t : Shell} (hp : s.picks.Same t.picks)
    {changed others : Except SelectorError Picks} (h : Picks.SameResult changed others) :
    (s.changePicks changed).1.picks.Same (t.changePicks others).1.picks ∧
      (s.changePicks changed).2 = (t.changePicks others).2 := by
  cases changed with
  | ok p =>
    cases others with
    | ok q =>
      have hc : p.count = q.count := Picks.Same.count_eq h
      exact ⟨h, by simp only [changePicks, say, hc]⟩
    | error e => exact h.elim
  | error d =>
    cases others with
    | ok q => exact h.elim
    | error e =>
      cases h
      exact ⟨hp, rfl⟩

/-- What a command on the list makes of it and answers hangs on the set of names in the list and on
the names shown. -/
theorem runList_same {s t : Shell} (hp : s.picks.Same t.picks)
    (hn : (s.shown.map fun e => e.game.name) = t.shown.map fun e => e.game.name)
    (action : ListAction) :
    (s.runList action).1.picks.Same (t.runList action).1.picks ∧
      (s.runList action).2 = (t.runList action).2 := by
  have hnames := hp.names_eq
  have hcount := hp.count_eq
  cases action with
  | print => exact ⟨hp, by simp only [runList, say, hnames]⟩
  | count => exact ⟨hp, by simp only [runList, say, hcount]⟩
  | save path => exact ⟨hp, by simp only [runList, Picks.savedText, hnames, hcount]⟩
  | clear => exact ⟨fun _ => Iff.rfl, rfl⟩
  | add words =>
    simp only [runList, hn]
    exact changePicks_same hp (hp.add _ _)
  | remove words => exact changePicks_same hp (hp.remove _)

/-- All that a line can do to the shell: filter, reset, or change the list at most. -/
theorem execute_cases (s : Shell) (line : String) :
    (∃ words sort descending, Command.ofLine? line = some (.filter words sort descending) ∧
      s.execute line = s.filter words sort descending) ∨
    (Command.ofLine? line = some .reset ∧ s.execute line = s.reset) ∨
    (∀ words sort descending, Command.ofLine? line ≠ some (.filter words sort descending)) ∧
      Command.ofLine? line ≠ some .reset ∧ ∃ picks, (s.execute line).1 = { s with picks } := by
  cases hc : Command.ofLine? line with
  | none =>
    obtain ⟨request, -, -, hr⟩ := execute_of_none hc
    exact .inr (.inr ⟨by simp, by simp, s.picks, by rw [hr]⟩)
  | some command =>
    rw [execute_of_some s hc]
    cases command with
    | filter words sort descending => exact .inl ⟨words, sort, descending, rfl, rfl⟩
    | reset => exact .inr (.inl ⟨rfl, rfl⟩)
    | list action => exact .inr (.inr ⟨by simp, by simp, runList_frame s _⟩)
    | exit => exact .inr (.inr ⟨by simp, by simp, s.picks, rfl⟩)

theorem catalog_execute (s : Shell) (line : String) :
    (s.execute line).1.search.catalog = s.search.catalog := by
  obtain ⟨words, sort, descending, -, he⟩ | ⟨-, he⟩ | ⟨-, -, picks, he⟩ := execute_cases s line <;>
    rw [he] <;> rfl

theorem catalog_after (s : Shell) (lines : List String) :
    (s.after lines).search.catalog = s.search.catalog := by
  induction lines generalizing s with
  | nil => rfl
  | cons line lines ih => rw [after_cons, ih, catalog_execute]

theorem json_after (s : Shell) (lines : List String) : (s.after lines).json = s.json := by
  induction lines using List.reverseRecOn with
  | nil => rfl
  | append_singleton lines line ih =>
    rw [after_append, ← ih]
    obtain ⟨words, sort, descending, -, he⟩ | ⟨-, he⟩ | ⟨-, -, picks, he⟩ :=
      execute_cases (s.after lines) line <;> rw [he] <;> rfl

end Shell
end GameShelf
