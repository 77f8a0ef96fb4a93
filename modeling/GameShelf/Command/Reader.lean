import GameShelf.Command.Arguments

namespace GameShelf

def Topic.sub? : Topic → String → Option Topic
  | .shell, "filter" => some .filter
  | .shell, "reset" => some .reset
  | .shell, "list" => some .list
  | .shell, "exit" => some .exit
  | .shell, "quit" => some .exit
  | .shell, "help" => some .help
  | .list, "show" => some .listPrint
  | .list, "add" => some .listAdd
  | .list, "remove" => some .listRemove
  | .list, "clear" => some .listClear
  | .list, "count" => some .listCount
  | .list, "save" => some .listSave
  | .list, "help" => some .listHelp
  | _, _ => none

namespace Command

def helpOn (topic : Topic) : List String → Refusal
  | [] => .help topic true
  | word :: words =>
    match topic.sub? word with
    | some topic => helpOn topic words
    | none => .misuse (.unknownCommand word)

def optionless (topic : Topic) (operands : Operands) : Grammar :=
  ⟨topic, [.help], operands, false⟩

/-- The command or action that the first word names, and the words after it; none if there are no
words. -/
def dispatch (topic : Topic) : List String → Except Refusal (Option (Topic × List String))
  | [] => .ok none
  | word :: words =>
    match topic.sub? word with
    | some sub => .ok (some (sub, words))
    | none =>
      if word = "--" then
        match words with
        | [] => .ok none
        | word :: _ =>
          if (topic.sub? word).isSome then .error (.misuse (.unexpectedArgument word))
          else .error (.misuse (.unknownCommand word))
      else do
        let _ ← Arguments.read (optionless topic .many) [word]
        throw (.misuse (.unknownCommand word))

def sortSlot : Slot := ⟨"sort", "--sort <SORT>", true⟩

def filterGrammar : Grammar where
  topic := .filter
  switches := [⟨"sort", some 's', .take sortSlot⟩, ⟨"desc", some 'd', .raise⟩, .help]
  operands := .many
  negativeNumbers := true

def readFilter (words : List String) : Except Refusal Command := do
  let s ← Arguments.read filterGrammar words
  return .filter s.words ((s.get? "sort").getD "name") (s.has "desc")

def readBare {α : Type} (topic : Topic) (command : α) (words : List String) :
    Except Refusal α := do
  let _ ← Arguments.read (optionless topic .none) words
  return command

def readOperands (topic : Topic) (words : List String) : Except Refusal (List String) := do
  let s ← Arguments.read (optionless topic .many) words
  if s.words.isEmpty then throw (.misuse (.argumentMissing "<SELECTOR>..."))
  return s.words

def pathSlot : Slot := ⟨"path", "<PATH>", false⟩

def readPath (words : List String) : Except Refusal String := do
  let s ← Arguments.read (optionless .listSave (.one pathSlot)) words
  match s.get? "path" with
  | some path => return path
  | none => throw (.misuse (.argumentMissing "<PATH>"))

def readAction (topic : Topic) (words : List String) : Except Refusal ListAction :=
  match topic with
  | .listAdd => (readOperands topic words).map .add
  | .listRemove => (readOperands topic words).map .remove
  | .listClear => readBare topic .clear words
  | .listCount => readBare topic .count words
  | .listSave => (readPath words).map .save
  | .listHelp => .error (helpOn .list words)
  | _ => readBare topic .print words

def readList (words : List String) : Except Refusal Command := do
  match ← dispatch .list words with
  | none => return .list none
  | some (topic, words) => return .list (some (← readAction topic words))

def read (words : List String) : Except Refusal Command := do
  match ← dispatch .shell words with
  | none => throw .noCommand
  | some (.filter, words) => readFilter words
  | some (.list, words) => readList words
  | some (.exit, words) => readBare .exit .exit words
  | some (.help, words) => throw (helpOn .shell words)
  | some (_, words) => readBare .reset .reset words

end Command
end GameShelf
