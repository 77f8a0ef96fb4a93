import GameShelf.Proofs.Command.Operands
import GameShelf.Proofs.Listing
import GameShelf.Proofs.Shell.Run
import GameShelf.Proofs.Text.Trim
import GameShelf.Proofs.Words

namespace GameShelf

open Words (quotedLine split?_quotedLine)

theorem trim_quotedLine {first : String} (rest : List String) (text : String)
    (h : first.toList ≠ [] ∧ NoOuterBlank first.toList) :
    trim (quotedLine (first :: rest) text) = quotedLine (first :: rest) text := by
  have hquote : NoOuterBlank ['\''] := by decide
  have hb := h.2.append hquote h.1 (by simp)
    (' ' :: (rest.map String.toList).flatMap (· ++ [' ']) ++ '\'' :: text.toList)
  have hl : (quotedLine (first :: rest) text).toList =
      first.toList ++ (' ' :: (rest.map String.toList).flatMap (· ++ [' ']) ++
        '\'' :: text.toList) ++ ['\''] := by
    simp [quotedLine]
  rw [trim, hl, trimChars_eq_self hb, ← hl, String.ofList_toList]

namespace Command

theorem ofLine?_quotedLine {first : String} {rest : List String} {text : String}
    (hf : NoOuterBlank first.toList) (hw : ∀ word ∈ first :: rest, Words.IsBare word.toList)
    (ht : '\'' ∉ text.toList) {command : Command}
    (hc : read (first :: rest ++ [text]) = .ok command) :
    ofLine? (quotedLine (first :: rest) text) = some command := by
  have hne : first.toList ≠ [] := (hw first (by simp)).1
  rw [ofLine?, trim_quotedLine rest text ⟨hne, hf⟩, split?_quotedLine hw ht, Option.bind_some, hc]
  rfl

section Quoted

variable {text : String} (hq : '\'' ∉ text.toList) (hd : Undashed text)
include hq hd

theorem ofLine?_filter_quoted :
    ofLine? ("filter '" ++ text ++ "'") = some (.filter [text] "name" false) := by
  have hl : "filter '" ++ text ++ "'" = quotedLine ["filter"] text := by
    rw [← String.toList_inj]
    simp [quotedLine]
  have hread : read ["filter", text] = .ok (.filter [text] "name" false) :=
    read_filter_undashed (by simpa using hd)
  rw [hl]
  exact ofLine?_quotedLine (by decide) (by decide) hq hread

theorem ofLine?_add_quoted :
    ofLine? ("list add '" ++ text ++ "'") = some (.list (some (.add [text]))) := by
  have hl : "list add '" ++ text ++ "'" = quotedLine ["list", "add"] text := by
    rw [← String.toList_inj]
    simp [quotedLine]
  have hread : read ["list", "add", text] = .ok (.list (some (.add [text]))) :=
    read_add_undashed (by simpa using hd) (by simp)
  rw [hl]
  exact ofLine?_quotedLine (by decide) (by decide) hq hread

theorem ofLine?_remove_quoted :
    ofLine? ("list remove '" ++ text ++ "'") = some (.list (some (.remove [text]))) := by
  have hl : "list remove '" ++ text ++ "'" = quotedLine ["list", "remove"] text := by
    rw [← String.toList_inj]
    simp [quotedLine]
  have hread : read ["list", "remove", text] = .ok (.list (some (.remove [text]))) :=
    read_remove_undashed (by simpa using hd) (by simp)
  rw [hl]
  exact ofLine?_quotedLine (by decide) (by decide) hq hread

end Quoted
end Command

theorem joinWords_singleton (word : String) : joinWords [word] = word := by
  rw [joinWords, ← String.toList_inj]
  simp

namespace Shell

def told (s : Shell) (files : Files) : Except SelectorError Picks → Shell × Files × Outcome
  | .ok picks => ({ s with picks }, files, .say (toString picks.count ++ " games listed"))
  | .error e => (s, files, .say ("error: " ++ e.message))

theorem perform_of_changePicks (s : Shell) (files : Files) {line : String}
    {changed : Except SelectorError Picks} (h : s.execute line = s.changePicks changed) :
    s.perform files line = s.told files changed := by
  rw [perform_eq, h]
  cases changed <;> rfl

/-- Whatever a text holds beside a single quote, and unless it starts with a dash, a line that has
it in single quotes does with it what the search and the list of picks do when they are given the
text itself. -/
theorem quoted_text_arrives (s : Shell) (files : Files) {text : String}
    (hq : '\'' ∉ text.toList) (hd : Undashed text) :
    let search := s.search.query text .name .ascending
    s.perform files ("filter '" ++ text ++ "'") =
      ({ s with search, shown := search.working }, files,
        .say (Listing.render s.json (search.working.map Entry.game))) ∧
    s.perform files ("list add '" ++ text ++ "'") =
      s.told files (s.picks.add text (s.shown.map fun e => e.game.name)) ∧
    s.perform files ("list remove '" ++ text ++ "'") = s.told files (s.picks.remove text) := by
  intro search
  have hjoin := joinWords_singleton text
  refine ⟨?_, ?_, ?_⟩
  · have hsort : SortOrder.ofText "name" (.ofAscending !false) = .byName := by decide
    rw [perform_eq, execute_of_some s (Command.ofLine?_filter_quoted hq hd)]
    simp only [run, filter, hjoin, hsort]
    rfl
  · have he := execute_of_some s (Command.ofLine?_add_quoted hq hd)
    rw [run, Option.getD_some, runList, hjoin] at he
    exact perform_of_changePicks s files he
  · have he := execute_of_some s (Command.ofLine?_remove_quoted hq hd)
    rw [run, Option.getD_some, runList, hjoin] at he
    exact perform_of_changePicks s files he

namespace Specials

def single : Game := .named "Go \\\"#$" 1

def double : Game := .named "Go  \\\"#$" 2

def shell : Shell :=
  ⟨.start [single, double], entries [single, double], Picks.empty.insert single.name, false⟩

def condition : String := "name~=go  \\\"#,$ b"

def spelling : String := "go  \\\"#$"

def table : String :=
  "1. Go  \\\"#$  [rating 0.00, difficulty 0.00, 0-0 players, 0-0 min, 0, rank 0]"

theorem query_condition :
    shell.search.query condition .name .ascending = ⟨[single, double], [⟨1, double⟩]⟩ := by
  let q := (Query.ofExpression condition).orderBy .name .ascending
  have hnarrow : q.narrow (entries [single, double]) = [⟨1, double⟩] := by decide +kernel
  have hrun : q.run (entries [single, double]) = [⟨1, double⟩] := by
    rw [Query.run, hnarrow]
    exact List.mergeSort_singleton _
  exact congrArg (Search.mk [single, double]) hrun

theorem add_spelling :
    shell.picks.add spelling (shell.shown.map fun e => e.game.name) =
      .ok (shell.picks.insert double.name) := by
  have hresolve : Selector.resolve .add spelling [single.name, double.name] =
      .ok [double.name] := by decide
  rw [Picks.add_eq_resolve]
  exact congrArg (Except.map shell.picks.insertAll) hresolve

theorem remove_spelling : shell.picks.remove spelling = .error (.noMatch spelling) := by
  have hnames : shell.picks.names = [single.name] := List.mergeSort_singleton _
  have hresolve : Selector.resolve .remove spelling [single.name] =
      .error (.noMatch spelling) := by decide
  rw [Picks.remove_eq_resolve, hnames, hresolve]
  rfl

end Specials

open Specials in
/-- The two names differ in a second space, which arrives between quotes, as do characters that mean
something to the splitting of a line and the empty text. -/
theorem quoted_text_arrives_with_specials :
    let s := shell
    ('\'' ∉ condition.toList ∧ Undashed condition) ∧
    s.perform .empty ("filter '" ++ condition ++ "'") =
      ({ s with search := ⟨[single, double], [⟨1, double⟩]⟩, shown := [⟨1, double⟩] }, .empty,
        .say table) ∧
    ('\'' ∉ spelling.toList ∧ Undashed spelling) ∧
    s.perform .empty ("list add '" ++ spelling ++ "'") =
      ({ s with picks := s.picks.insert double.name }, .empty, .say "2 games listed") ∧
    s.perform .empty ("list remove '" ++ spelling ++ "'") =
      (s, .empty, .say "error: no matching game found for 'go  \\\"#$'") ∧
    ('\'' ∉ "".toList ∧ Undashed "") ∧
    s.perform .empty ("list add '" ++ "" ++ "'") =
      (s, .empty, .say "error: empty selector for add") := by
  intro s
  have hq : '\'' ∉ condition.toList := by decide
  have hd : Undashed condition := by decide
  have hq' : '\'' ∉ spelling.toList := by decide
  have hd' : Undashed spelling := by decide
  have hblank : Undashed "" := by decide
  obtain ⟨hfilter, -, -⟩ := quoted_text_arrives s .empty hq hd
  obtain ⟨-, hadd, hremove⟩ := quoted_text_arrives s .empty hq' hd'
  obtain ⟨-, hempty, -⟩ := @quoted_text_arrives s .empty "" (by decide) hblank
  refine ⟨⟨hq, hd⟩, ?_, ⟨hq', hd'⟩, ?_, ?_, ⟨by decide, hblank⟩, ?_⟩
  · have hrender : Listing.render false [double] = table := by decide +kernel
    rw [hfilter, query_condition]
    exact congrArg (fun text => (_, _, Outcome.say text)) hrender
  · rw [hadd, add_spelling]
    rfl
  · rw [hremove, remove_spelling]
    rfl
  · rw [hempty]
    rfl

end Shell
end GameShelf
