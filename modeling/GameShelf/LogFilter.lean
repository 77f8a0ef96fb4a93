import GameShelf.Binary64.Decimal
import GameShelf.Text.Alphanumeric
import GameShelf.Text.Basic
import GameShelf.Text.Fold

namespace GameShelf

inductive LogLevel where
  | off
  | error
  | warn
  | info
  | debug
  | trace
  deriving DecidableEq

namespace LogLevel

def all : List LogLevel := [.off, .error, .warn, .info, .debug, .trace]

def name : LogLevel → String
  | .off => "off"
  | .error => "error"
  | .warn => "warn"
  | .info => "info"
  | .debug => "debug"
  | .trace => "trace"

def rank (level : LogLevel) : Nat := all.idxOf level

def max (a b : LogLevel) : LogLevel := if a.rank < b.rank then b else a

def read? (cs : List Char) : Option LogLevel :=
  let digits := match cs with
    | '+' :: ds => ds
    | ds => ds
  if !digits.isEmpty && digits.all Char.isDigit then all[digitsValue digits]?
  else all.find? fun level => asciiEq level.name (String.ofList cs)

end LogLevel

inductive LogFilterError where
  | malformed
  | badLevel
  deriving DecidableEq

def LogFilterError.message : LogFilterError → String
  | .malformed => "invalid filter directive"
  | .badLevel =>
    "error parsing level filter: expected one of \"off\", \"error\", \"warn\", \"info\", " ++
      "\"debug\", \"trace\", or a number 0-5"

/-- A directive's level, and whether it asks for the value of a field. -/
structure LogDirective where
  level : LogLevel
  asksValue : Bool
  deriving DecidableEq

namespace LogDirective

/-- Where in a directive a reader stands; numbers are positions where a part began. -/
inductive Part where
  | start
  | levelOrTarget (start : Nat)
  | span (start : Nat)
  | field (start : Nat)
  | fields
  | target
  | level (start : Nat)
  deriving DecidableEq

structure Reading where
  part : Part
  asksValue : Bool

def slice (text : List Char) (first last : Nat) : List Char := (text.drop first).take (last - first)

def step (text : List Char) (r : Reading) (i : Nat) (c : Char) : Except LogFilterError Reading :=
  match r.part with
  | .start =>
    if c = '[' then .ok { r with part := .span (i + 1) }
    else if c = '-' || c = ':' || c = '_' || isAlphanumeric c then
      .ok { r with part := .levelOrTarget i }
    else .error .malformed
  | .levelOrTarget _ =>
    if c = '=' then .ok { r with part := .level (i + 1) }
    else if c = '[' then .ok { r with part := .span (i + 1) }
    else .ok r
  | .span _ =>
    if c = ']' then .ok { r with part := .target }
    else if c = '\x7b' then .ok { r with part := .field (i + 1) }
    else .ok r
  | .field first =>
    if c = '\x7d' then
      let field := slice text first i
      if field.isEmpty then .error .malformed
      else .ok ⟨.fields, r.asksValue || field.contains '='⟩
    else .ok r
  | .fields => if c = ']' then .ok { r with part := .target } else .error .malformed
  | .target => if c = '=' then .ok { r with part := .level (i + 1) } else .error .malformed
  | .level _ => .ok r

def readFrom (text : List Char) (r : Reading) (i : Nat) :
    List Char → Except LogFilterError Reading
  | [] => .ok r
  | c :: cs => do readFrom text (← step text r i c) (i + 1) cs

def levelOf (cs : List Char) : Except LogFilterError LogLevel :=
  if cs.isEmpty then .ok .trace
  else match LogLevel.read? cs with
    | some level => .ok level
    | none => .error .badLevel

/-- Reads a directive. Blanks around it are passed over, but positions are taken from the start of
the text with its blanks. -/
def read (text : List Char) : Except LogFilterError LogDirective := do
  let r ← readFrom text ⟨.start, false⟩ 0 (trimChars text)
  match r.part with
  | .levelOrTarget first => return ⟨(LogLevel.read? (text.drop first)).getD .trace, r.asksValue⟩
  | .level first => return ⟨← levelOf (text.drop first), r.asksValue⟩
  | .target => return ⟨.trace, r.asksValue⟩
  | _ => throw .malformed

end LogDirective

namespace LogFilter

/-- The most talkative level of a filter. Values of fields are only known later, so a filter that
asks for one lets everything through at first. -/
def maxLevel (directives : List LogDirective) : LogLevel :=
  if directives.any (·.asksValue) then .trace
  else directives.foldl (fun level d => level.max d.level) .off

def read (text : String) : Except LogFilterError LogLevel := do
  let parts := (text.toList.splitOn ',').filter (!·.isEmpty)
  return maxLevel (← parts.mapM LogDirective.read)

def default : LogLevel := .warn

/-- The level that is asked for, or else the one that the environment gives, if it can be read. -/
def choose (asked environment : Option String) : Except LogFilterError LogLevel :=
  match asked, environment with
  | some text, _ => read text
  | none, some text => .ok ((read text).toOption.getD default)
  | none, none => .ok default

def invalidLevel (asked : String) : String := "invalid log level '" ++ asked ++ "'"

end LogFilter
end GameShelf
