import GameShelf.Text.ControlSequence

namespace GameShelf

inductive ListAction where
  | print
  | add (words : List String)
  | remove (words : List String)
  | clear
  | count
  | save (path : String)
  deriving DecidableEq

inductive Command where
  | filter (words : List String) (sort : String) (descending : Bool)
  | reset
  | list (action : Option ListAction)
  | exit
  deriving DecidableEq

def joinWords (words : List String) : String := " ".intercalate words

inductive Topic where
  | program
  | shell
  | filter
  | reset
  | list
  | exit
  | help
  | listPrint
  | listAdd
  | listRemove
  | listClear
  | listCount
  | listSave
  | listHelp
  deriving DecidableEq

inductive UsageError where
  | unknownCommand (word : String)
  | unexpectedArgument (word : String)
  | valueMissing (argument : String)
  | argumentMissing (argument : String)
  | repeated (argument : String)
  | unwantedValue (value argument : String)
  deriving DecidableEq

def firstParagraph : List Char → List Char
  | [] => []
  | '\n' :: '\n' :: _ => []
  | c :: cs => c :: firstParagraph cs

/-- The text of an error. Words are quoted as they are shown, so that none can take the text around
it into a control sequence. -/
def UsageError.text : UsageError → String
  | .unknownCommand word => "error: unrecognized subcommand '" ++ shownText word ++ "'"
  | .unexpectedArgument word => "error: unexpected argument '" ++ shownText word ++ "' found"
  | .valueMissing argument =>
    "error: a value is required for '" ++ argument ++ "' but none was supplied"
  | .argumentMissing argument =>
    "error: the following required arguments were not provided:\n  " ++ argument
  | .repeated argument => "error: the argument '" ++ argument ++ "' cannot be used multiple times"
  | .unwantedValue value argument =>
    "error: unexpected value '" ++ shownText value ++ "' for '" ++ argument ++
      "' found; no more were expected"

/-- The first paragraph of what is told of an error. The usage and the tips in the paragraphs under
it are left out, and so is the rest of a word that holds an empty line itself. -/
def UsageError.message (e : UsageError) : String := String.ofList (firstParagraph e.text.toList)

inductive Refusal where
  | misuse (e : UsageError)
  | noCommand
  | help (topic : Topic) (long : Bool)
  | version
  deriving DecidableEq

end GameShelf
