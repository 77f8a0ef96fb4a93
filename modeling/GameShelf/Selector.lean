import GameShelf.Binary64.Decimal
import GameShelf.Text.Basic
import GameShelf.Text.Fold

namespace GameShelf

/-- Positions count from one. -/
inductive Selector where
  | all
  | range (first last : Nat)
  | position (n : Nat)
  | name (text : String)
  deriving DecidableEq

inductive PickAction where
  | add
  | remove
  deriving DecidableEq

def PickAction.name : PickAction → String
  | .add => "add"
  | .remove => "remove"

inductive SelectorError where
  | empty (action : PickAction)
  | invalidRange (text : String) (available : Nat)
  | invalidIndex (text : String) (available : Nat)
  | noMatch (name : String)
  deriving DecidableEq

def SelectorError.message : SelectorError → String
  | .empty action => "empty selector for " ++ action.name
  | .invalidRange text available =>
    "invalid range '" ++ text ++ "' (" ++ toString available ++ " available)"
  | .invalidIndex text available =>
    "invalid index '" ++ text ++ "' (" ++ toString available ++ " available)"
  | .noMatch name => "no matching game found for '" ++ name ++ "'"

namespace Selector

/-- Reads a selector without blanks around it. Only ASCII digits make positions. -/
def ofTrimmed (cs : List Char) : Selector :=
  let text := String.ofList cs
  let first := cs.takeWhile Char.isDigit
  if asciiEq text "all" then .all
  else if first.isEmpty then .name text
  else match cs.dropWhile Char.isDigit with
    | [] => .position (digitsValue first)
    | '-' :: last =>
      if last.isEmpty || !last.all Char.isDigit then .name text
      else .range (digitsValue first) (digitsValue last)
    | _ => .name text

def pick (selector : Selector) (text : String) (source : List String) :
    Except SelectorError (List String) :=
  match selector with
  | .all => .ok source
  | .range first last =>
    if first = 0 ∨ last < first ∨ source.length < last then
      .error (.invalidRange text source.length)
    else .ok ((source.drop (first - 1)).take (last + 1 - first))
  | .position n =>
    if n = 0 then .error (.invalidIndex text source.length)
    else match source[n - 1]? with
      | none => .error (.invalidIndex text source.length)
      | some picked => .ok [picked]
  | .name wanted =>
    match source.find? (foldEq · wanted) with
    | none => .error (.noMatch wanted)
    | some picked => .ok [picked]

end Selector

def readSelector (action : PickAction) (text : String) :
    Except SelectorError (Selector × String) :=
  let cs := trimChars text.toList
  if cs.isEmpty then .error (.empty action) else .ok (.ofTrimmed cs, String.ofList cs)

end GameShelf
