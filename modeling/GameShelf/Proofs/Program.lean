import GameShelf.Program
import GameShelf.Proofs.Shell.Failure
import GameShelf.Proofs.Shell.Reproducible
import GameShelf.Proofs.Text.Lines
import GameShelf.Proofs.Text.Utf8

namespace GameShelf

def Outcome.text? : Outcome → Option String
  | .say text => some text
  | .leave => none

namespace Shell

theorem settle_runList_ne_leave (s : Shell) (action : ListAction)
    (written : Except FileError Unit) : (s.runList action).2.settle written ≠ .leave := by
  have hc : ∀ changed, (s.changePicks changed).2.settle written ≠ .leave := by
    intro changed
    cases changed <;> simp [changePicks, say, Request.settle]
  cases action with
  | add words | remove words => exact hc _
  | print | clear | count => simp [runList, say, Request.settle]
  | save path => cases written <;> simp [runList, Request.settle]

theorem perform_eq_leave_iff (s : Shell) (files : Files) (line : String) :
    (s.perform files line).2.2 = .leave ↔ Command.ofLine? line = some .exit := by
  rw [perform_eq, Request.carryOut_answer]
  cases hc : Command.ofLine? line with
  | none =>
    obtain ⟨request, text, hs, he⟩ := execute_of_none hc
    simp [he, hs]
  | some command =>
    rw [execute_of_some s hc]
    cases command with
    | exit => exact iff_of_true rfl rfl
    | filter words sort descending | reset => simp [run, filter, reset, say, Request.settle]
    | list action => simp [run, settle_runList_ne_leave]

theorem leave_mem_outcomes_iff {s : Shell} {files : Files} {lines : List String} :
    .leave ∈ s.outcomes files lines ↔ ∃ line ∈ lines, Command.ofLine? line = some .exit := by
  induction lines generalizing s files with
  | nil => simp [outcomes]
  | cons line lines ih =>
    rw [outcomes, List.mem_cons, eq_comm, perform_eq_leave_iff, ih]
    simp

end Shell

namespace Program

def dropCarriage (line : List UInt8) : List UInt8 :=
  if line.getLast? == some 13 then line.dropLast else line

/-- The lines of an input: what stands between feeds and behind the last one, each less one carriage
at its end. -/
def inputLines (input : List UInt8) : List (List UInt8) := (input.splitOn 10).map dropCarriage

def leadingTexts : List (List UInt8) → List String
  | [] => []
  | line :: rest =>
    match decodeUtf8 line with
    | .error _ => []
    | .ok text => text :: leadingTexts rest

def IsText (line : List UInt8) : Prop := ∃ text, decodeUtf8 line = .ok text

/-- What is printed of answers: those with a text in them, up to the one that leaves the shell, and
a line feed behind each. -/
def transcribed (outcomes : List Outcome) : String :=
  String.join ((((outcomes.takeWhile (· ≠ .leave)).filterMap Outcome.text?).filter (· ≠ "")).map
    (· ++ "\n"))

theorem transcribed_leave (outcomes : List Outcome) : transcribed (.leave :: outcomes) = "" := rfl

theorem transcribed_say (text : String) (outcomes : List Outcome) :
    transcribed (.say text :: outcomes) = printed text ++ transcribed outcomes := by
  apply String.toList_inj.mp
  by_cases h : text = ""
  · simp [transcribed, printed, h, Outcome.text?]
  · have he : text.isEmpty = false := by simpa using h
    simp [transcribed, printed, h, he, Outcome.text?]

/-- What running lines comes to, by the shell's answers to the texts among them. -/
structure Runs (s : Shell) (files : Files) (lines : List (List UInt8))
    (result : String × Files × Ending) : Prop where
  output : result.1 = transcribed (s.outcomes files (leadingTexts lines))
  done : .leave ∈ s.outcomes files (leadingTexts lines) ∨ (∀ line ∈ lines, IsText line) →
    result.2.2 = .done
  failed : .leave ∉ s.outcomes files (leadingTexts lines) → (∃ line ∈ lines, ¬IsText line) →
    result.2.2 = .failed .input

theorem runLine_of_error {line : List UInt8} {n : Nat} (hd : decodeUtf8 line = .error n)
    (s : Shell) (files : Files) :
    runLine Files.store s line files = (.error (.failed .input), files) := by
  rw [runLine, hd]
  rfl

theorem runLine_of_text {line : List UInt8} {text : String} (hd : decodeUtf8 line = .ok text)
    (s : Shell) (files : Files) :
    runLine Files.store s line files =
      match s.perform files text with
      | (_, written, .leave) => (.error .done, written)
      | (t, written, .say answer) => (.ok (t, printed answer), written) := by
  have hb : runLine Files.store s line files =
      match ((s.execute text).2.fulfil Files.store files) with
      | (.leave, written) => (.error .done, written)
      | (.say answer, written) => (.ok ((s.execute text).1, printed answer), written) := by
    rcases hf : (s.execute text).2.fulfil Files.store files with ⟨outcome, written⟩
    rw [runLine, hd]
    simp only [bind, StateT.bind, hf]
    cases outcome <;> rfl
  rw [hb, Shell.perform_eq, Request.carryOut]
  rcases (s.execute text).2.fulfil Files.store files with ⟨_ | _, written⟩ <;> rfl

theorem runLines_of_say {s t : Shell} {files written : Files} {line : List UInt8}
    {text answer : String} (hd : decodeUtf8 line = .ok text)
    (hp : s.perform files text = (t, written, .say answer)) (rest : List (List UInt8)) :
    runLines s files (line :: rest) =
      (printed answer ++ (runLines t written rest).1, (runLines t written rest).2) := by
  rw [runLines, runLine_of_text hd, hp]

theorem runLines_of_leave {s t : Shell} {files written : Files} {line : List UInt8}
    {text : String} (hd : decodeUtf8 line = .ok text)
    (hp : s.perform files text = (t, written, .leave)) (rest : List (List UInt8)) :
    runLines s files (line :: rest) = ("", written, .done) := by
  rw [runLines, runLine_of_text hd, hp]

theorem runLines_of_error {line : List UInt8} {n : Nat} (hd : decodeUtf8 line = .error n)
    (s : Shell) (files : Files) (rest : List (List UInt8)) :
    runLines s files (line :: rest) = ("", files, .failed .input) := by
  rw [runLines, runLine_of_error hd]

theorem runs_runLines (s : Shell) (files : Files) (lines : List (List UInt8)) :
    Runs s files lines (runLines s files lines) := by
  induction lines generalizing s files with
  | nil =>
    refine ⟨rfl, fun _ => rfl, fun _ h => ?_⟩
    simp at h
  | cons line rest ih =>
    cases hd : decodeUtf8 line with
    | error n =>
      have hnot : ¬IsText line := by simp [IsText, hd]
      rw [runLines_of_error hd]
      refine ⟨by simp only [leadingTexts, hd]; rfl, fun h => ?_, fun _ _ => rfl⟩
      simp only [leadingTexts, hd, Shell.outcomes, List.not_mem_nil, false_or] at h
      exact absurd (h line List.mem_cons_self) hnot
    | ok text =>
      have hline : IsText line := ⟨text, hd⟩
      rcases hp : s.perform files text with ⟨t, written, outcome⟩
      have ho : s.outcomes files (leadingTexts (line :: rest)) =
          outcome :: t.outcomes written (leadingTexts rest) := by
        simp only [leadingTexts, hd, Shell.outcomes, hp]
      cases outcome with
      | leave =>
        rw [runLines_of_leave hd hp]
        refine ⟨by rw [ho, transcribed_leave], fun _ => rfl, fun h _ => ?_⟩
        rw [ho] at h
        exact absurd List.mem_cons_self h
      | say answer =>
        obtain ⟨hout, hdone, hfailed⟩ := ih t written
        have hmem : Outcome.leave ∈ s.outcomes files (leadingTexts (line :: rest)) ↔
            Outcome.leave ∈ t.outcomes written (leadingTexts rest) := by
          simp [ho]
        rw [runLines_of_say hd hp]
        refine ⟨?_, fun h => hdone ?_, fun hl h => hfailed (mt hmem.mpr hl) ?_⟩
        · rw [ho, transcribed_say, hout]
        · exact h.imp hmem.mp fun hall l hl => hall l (List.mem_cons_of_mem line hl)
        · obtain ⟨l, hl, hnot⟩ := h
          rcases List.mem_cons.mp hl with rfl | hl
          · exact absurd hline hnot
          · exact ⟨l, hl, hnot⟩

theorem runLines_append_of_leave {s : Shell} {files : Files} {lines : List (List UInt8)}
    (h : .leave ∈ s.outcomes files (leadingTexts lines)) (later : List (List UInt8)) :
    runLines s files (lines ++ later) = runLines s files lines := by
  induction lines generalizing s files with
  | nil => simp [leadingTexts, Shell.outcomes] at h
  | cons line rest ih =>
    rw [List.cons_append]
    cases hd : decodeUtf8 line with
    | error n => rw [runLines_of_error hd, runLines_of_error hd]
    | ok text =>
      rcases hp : s.perform files text with ⟨t, written, outcome⟩
      simp only [leadingTexts, hd, Shell.outcomes, hp] at h
      cases outcome with
      | leave => rw [runLines_of_leave hd hp, runLines_of_leave hd hp]
      | say answer =>
        have hrest : .leave ∈ t.outcomes written (leadingTexts rest) := by simpa using h
        rw [runLines_of_say hd hp, runLines_of_say hd hp, ih hrest]

section Lines

theorem byteLines_append_feed {line : List UInt8} (h : 10 ∉ line) (rest : List UInt8) :
    byteLines (line ++ 10 :: rest) = dropCarriage line :: byteLines rest :=
  linesOf_append_cons h rest

/-- A line can be run as soon as its line feed is read. -/
theorem runLines_append_feed {line : List UInt8} (h : 10 ∉ line) (rest : List UInt8) (s : Shell)
    (files : Files) :
    runLines s files (byteLines (line ++ 10 :: rest)) =
      match runLine Files.store s (dropCarriage line) files with
      | (.error ending, files) => ("", files, ending)
      | (.ok (s, text), files) =>
        let (output, files, ending) := runLines s files (byteLines rest)
        (text ++ output, files, ending) := by
  rw [byteLines_append_feed h]
  rfl

theorem runLines_append_congr {ys zs : List (List UInt8)}
    (h : ∀ s files, runLines s files ys = runLines s files zs) (lines : List (List UInt8))
    (s : Shell) (files : Files) :
    runLines s files (lines ++ ys) = runLines s files (lines ++ zs) := by
  induction lines generalizing s files with
  | nil => exact h s files
  | cons line lines ih =>
    rw [List.cons_append, List.cons_append]
    cases hd : decodeUtf8 line with
    | error n => rw [runLines_of_error hd, runLines_of_error hd]
    | ok text =>
      rcases hp : s.perform files text with ⟨t, written, outcome⟩
      cases outcome with
      | leave => rw [runLines_of_leave hd hp, runLines_of_leave hd hp]
      | say answer => rw [runLines_of_say hd hp, runLines_of_say hd hp, ih]

theorem runLines_nil_line (s : Shell) (files : Files) :
    runLines s files [[]] = runLines s files [] := by
  have hd : decodeUtf8 [] = .ok "" := decodeUtf8_utf8 []
  have hp : s.perform files "" = (s, files, .say "") := rfl
  rw [runLines_of_say hd hp]
  rfl

theorem perform_append_carriage (s : Shell) (files : Files) (text : String) :
    s.perform files (text ++ "\r") = s.perform files text := by
  have ht : trim (text ++ "\r") = trim text := by
    have hr : IsBlanks ['\r'] := by simp [IsBlanks, isBlank]
    have h := trimChars_around (w := []) (by simp [IsBlanks]) hr text.toList
    rw [trim, trim, String.toList_append]
    exact congrArg String.ofList h
  have he : s.execute (text ++ "\r") = s.execute text := by simp only [Shell.execute, ht]
  rw [Shell.perform_eq, Shell.perform_eq, he]

theorem runLines_append_carriage (line : List UInt8) (s : Shell) (files : Files) :
    runLines s files [line ++ [13]] = runLines s files [line] := by
  have hr : utf8 ['\r'] = [13] := rfl
  cases hd : decodeUtf8 line with
  | ok text =>
    have hline := decodeUtf8_eq_ok_iff.mp hd
    have hd' : decodeUtf8 (line ++ [13]) = .ok (text ++ "\r") := by
      rw [decodeUtf8_eq_ok_iff, String.toList_append, utf8_append, ← hline]
      exact congrArg (line ++ ·) hr.symm
    rw [runLines, runLines, runLine_of_text hd, runLine_of_text hd', perform_append_carriage]
  | error n =>
    cases hd' : decodeUtf8 (line ++ [13]) with
    | error m => rw [runLines_of_error hd, runLines_of_error hd']
    | ok text =>
      obtain ⟨cs, c, -, hcs, -⟩ :=
        eq_concat_of_utf8 (decodeUtf8_eq_ok_iff.mp hd').symm (by decide)
      rw [hcs, decodeUtf8_utf8] at hd
      cases hd

theorem runLines_byteLines (s : Shell) (files : Files) (input : List UInt8) :
    runLines s files (byteLines input) = runLines s files (inputLines input) := by
  have hne : input.splitOn 10 ≠ [] := List.splitOn_ne_nil 10 input
  obtain ⟨parts, last, hs⟩ : ∃ parts last, input.splitOn 10 = parts ++ [last] :=
    ⟨_, _, (List.dropLast_append_getLast hne).symm⟩
  have hlines : inputLines input = parts.map dropCarriage ++ [dropCarriage last] := by
    simp [inputLines, hs]
  have hbytes : byteLines input = parts.map dropCarriage ++ [last].filter (!·.isEmpty) := by
    simp only [byteLines, linesOf, hs, List.dropLast_concat, List.getLast?_concat,
      Option.toList_some]
    rfl
  rw [hlines, hbytes]
  -- The lines differ in what stands behind the last feed alone.
  apply runLines_append_congr
  intro s files
  by_cases hnil : last = []
  · rw [hnil]
    exact (runLines_nil_line s files).symm
  · have hone : [last].filter (!·.isEmpty) = [last] := by simp [hnil]
    rw [hone, dropCarriage]
    split
    · next hc =>
      obtain ⟨line, rfl⟩ := List.getLast?_eq_some_iff.mp (beq_iff_eq.mp hc)
      rw [List.dropLast_concat]
      exact runLines_append_carriage line s files
    · rfl

theorem inputLines_append (input later : List UInt8) :
    inputLines (input ++ 10 :: later) = inputLines input ++ inputLines later := by
  rw [inputLines, List.splitOn_append_cons_self, List.map_append]
  rfl

end Lines

theorem start_of_load {i : Invocation} {files : Files} {settings : Settings} {games : List Game}
    (hp : prepare i = .ok settings) (hl : Catalog.load files settings.catalog = .ok games) :
    start (m := Id) files.read i = .ok (.start games settings.json) := by
  rw [Catalog.load] at hl
  rw [start, hp]
  simp only [bind, hl]
  rfl

/-- The program says what the shell answers to the lines of its input, in their order, up to the
first that exits or is no text. It fails exactly if one that is no text comes first, and nothing
behind a line that exits makes a difference. -/
theorem run_refines_shell {i : Invocation} {files : Files} {settings : Settings} {games : List Game}
    (hp : prepare i = .ok settings) (hl : Catalog.load files settings.catalog = .ok games)
    (input : List UInt8) :
    let lines := inputLines input
    let texts := leadingTexts lines
    let exits := ∃ text ∈ texts, Command.ofLine? text = some .exit
    let result := run i files input
    result.1 = transcribed ((Shell.start games settings.json).outcomes files texts) ∧
    (exits ∨ (∀ line ∈ lines, IsText line) →
      result.2.2.code = 0 ∧ result.2.2.report = none) ∧
    (¬exits → (∃ line ∈ lines, ¬IsText line) →
      result.2.2.code = 1 ∧ result.2.2.report = some
        "Error: failed to read stdin\n\nCaused by:\n    stream did not contain valid UTF-8") ∧
    (exits → ∀ later, run i files (input ++ 10 :: later) = result) := by
  intro lines texts exits result
  let s := Shell.start games settings.json
  have hrun : ∀ input, run i files input = runLines s files (inputLines input) := by
    intro input
    rw [run, start_of_load hp hl]
    exact runLines_byteLines s files input
  have hr : Runs s files lines result := by
    rw [show result = runLines s files lines from hrun input]
    exact runs_runLines s files lines
  have hleave : .leave ∈ s.outcomes files texts ↔ exits := Shell.leave_mem_outcomes_iff
  refine ⟨hr.output, fun h => ?_, fun hx h => ?_, fun hx later => ?_⟩
  · rw [hr.done (h.imp_left hleave.mpr)]
    exact ⟨rfl, rfl⟩
  · rw [hr.failed (mt hleave.mp hx) h]
    exact ⟨rfl, by decide⟩
  · rw [hrun, inputLines_append, runLines_append_of_leave (hleave.mpr hx), ← hrun]

section Example

def shelf : Files :=
  ⟨[(["games.csv"],
    ("name,id,rank,minplayers,maxplayers,mintime,maxtime,year,rating,difficulty\n" ++
      "Chess,7,0,2,2,0,0,2006,0,0\n").toUTF8)]⟩

set_option maxRecDepth 8000 in
theorem load_shelf : Catalog.load shelf "games.csv" =
    .ok [⟨"Chess", 7, 0, 2, 2, 0, 0, 2006, .zero, .zero⟩] := by
  rfl

/-- Carriages and a line that is blank; then a byte that is no text, behind an exit and without
one. -/
theorem run_refines_shell_at_exit :
    let invocation : Invocation := ⟨["--catalog", "games.csv"], none, none⟩
    let settings : Settings := ⟨"games.csv", none, false⟩
    let chess : Game := ⟨"Chess", 7, 0, 2, 2, 0, 0, 2006, .zero, .zero⟩
    let input := utf8 "list count\r\n\nlist count\n".toList
    let exiting := input ++ utf8 " exit ".toList
    let broken := input ++ [255]
    prepare invocation = .ok settings ∧ Catalog.load shelf settings.catalog = .ok [chess] ∧
      (run invocation shelf (exiting ++ 10 :: [255])).1 = "0\n0\n" ∧
      (run invocation shelf (exiting ++ 10 :: [255])).2.2.code = 0 ∧
      (run invocation shelf broken).1 = "0\n0\n" ∧
      (run invocation shelf broken).2.2.code = 1 := by
  intro invocation settings chess input exiting broken
  have hp : prepare invocation = .ok settings := by rfl
  have hl : Catalog.load shelf settings.catalog = .ok [chess] := load_shelf
  obtain ⟨hsaid, hdone, -, hlater⟩ := run_refines_shell hp hl exiting
  obtain ⟨hsaid', -, hfailed, -⟩ := run_refines_shell hp hl broken
  have htexts : leadingTexts (inputLines exiting) =
      ["list count", "", "list count", " exit "] := by decide
  have htexts' : leadingTexts (inputLines broken) = ["list count", "", "list count"] := by decide
  have hx : ∃ text ∈ leadingTexts (inputLines exiting), Command.ofLine? text = some .exit :=
    ⟨" exit ", by simp [htexts], by decide⟩
  have hnot : ¬∃ text ∈ leadingTexts (inputLines broken), Command.ofLine? text = some .exit := by
    rw [htexts']
    decide
  have hbad : ∃ line ∈ inputLines broken, ¬IsText line := by
    refine ⟨[255], by decide, ?_⟩
    rintro ⟨text, ht⟩
    have hd : (decodeUtf8 [255]).toOption = none := by decide
    rw [ht] at hd
    cases hd
  refine ⟨hp, hl, ?_, ?_, ?_, (hfailed hnot hbad).1⟩
  · rw [hlater hx, hsaid, htexts]
    decide
  · rw [hlater hx]
    exact (hdone (.inl hx)).1
  · rw [hsaid', htexts']
    decide

end Example

end Program
end GameShelf
