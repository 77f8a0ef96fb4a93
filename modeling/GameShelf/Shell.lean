import GameShelf.Command.Help
import GameShelf.Command.Reader
import GameShelf.Files
import GameShelf.Listing
import GameShelf.Picks
import GameShelf.Search
import GameShelf.Words

namespace GameShelf

inductive Outcome where
  | say (text : String)
  | leave
  deriving DecidableEq

/-- What a line asks for: an answer at once, the reason why it is no command, or a text to be
written to a file first. -/
inductive Request where
  | answer (outcome : Outcome)
  | refuse (refusal : Refusal)
  | save (path text : String) (count : Nat)
  deriving DecidableEq

structure Shell where
  search : Search
  shown : List Entry
  picks : Picks
  json : Bool

def Request.settle (request : Request) (written : Except FileError Unit) : Outcome :=
  match request, written with
  | .answer outcome, _ => outcome
  | .refuse refusal, _ => .say refusal.message
  | .save path _ count, .ok _ => .say ("saved " ++ toString count ++ " games to " ++ path)
  | .save _ _ _, .error e => .say ("error: " ++ e.report)

def Request.fulfil {m : Type → Type} [Monad m]
    (write : String → String → m (Except FileError Unit)) (request : Request) : m Outcome :=
  match request with
  | .save path text _ => do return request.settle (← write path text)
  | _ => return request.settle (.ok ())

def Request.carryOut (request : Request) (files : Files) : Files × Outcome :=
  (request.fulfil Files.store files).swap

namespace Shell

/-- Until the first filter the whole catalog counts as shown, by name. -/
def start (catalog : List Game) (json : Bool) : Shell :=
  ⟨.start catalog, Query.empty.run (entries catalog), .empty, json⟩

def say (s : Shell) (text : String) : Shell × Request := (s, .answer (.say text))

def filter (s : Shell) (words : List String) (sort : String) (descending : Bool) :
    Shell × Request :=
  let order := SortOrder.ofText sort (.ofAscending !descending)
  let search := s.search.query (joinWords words) order.column order.direction
  let shown := search.answer
  say { s with search, shown } (Listing.render s.json (shown.map Entry.game))

def reset (s : Shell) : Shell × Request :=
  let search := s.search.reset
  let shown := Query.empty.run (entries search.catalog)
  say { s with search, shown } ("filters cleared (" ++ toString shown.length ++ " games)")

def changePicks (s : Shell) (changed : Except SelectorError Picks) : Shell × Request :=
  match changed with
  | .ok picks => say { s with picks } (toString picks.count ++ " games listed")
  | .error e => s.say ("error: " ++ e.message)

/-- Names are picked out of the games shown last, in the order they were shown. -/
def runList (s : Shell) : ListAction → Shell × Request
  | .print => s.say (Listing.names s.picks.names)
  | .add words =>
    s.changePicks (s.picks.add (joinWords words) (s.shown.map fun e => e.game.name))
  | .remove words => s.changePicks (s.picks.remove (joinWords words))
  | .clear => say { s with picks := .empty } "game list cleared"
  | .count => s.say (toString s.picks.count)
  | .save path => (s, .save path s.picks.savedText s.picks.count)

def run (s : Shell) : Command → Shell × Request
  | .filter words sort descending => s.filter words sort descending
  | .reset => s.reset
  | .list action => s.runList (action.getD .print)
  | .exit => (s, .answer .leave)

def execute (s : Shell) (line : String) : Shell × Request :=
  let line := trim line
  if line.isEmpty then s.say ""
  else match Words.split? line with
    | none => s.say "error: missing closing quote"
    | some words =>
      match Command.read words with
      | .ok command => s.run command
      | .error refusal => (s, .refuse refusal)

def perform (s : Shell) (files : Files) (line : String) : Shell × Files × Outcome :=
  let (s, request) := s.execute line
  (s, request.carryOut files)

end Shell
end GameShelf
