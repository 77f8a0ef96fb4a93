import GameShelf.Column
import GameShelf.Operator

namespace GameShelf

structure Condition where
  column : Column
  operator : Operator
  literal : Value
  deriving DecidableEq

inductive Fault where
  | empty
  | noOperator
  | malformedParts
  | unknownColumn (text : String)
  | excludedColumn (column : Column)
  | unsupportedOperator (operator : Operator) (kind : Kind)
  | badLiteral (text : String) (kind : Kind)
  deriving DecidableEq

def Fault.message : Fault → String
  | .empty => "empty condition"
  | .noOperator => "no operator"
  | .malformedParts => "expected exactly one column and one value"
  | .unknownColumn text => "unknown column '" ++ text ++ "'"
  | .excludedColumn column => "column '" ++ column.token ++ "' is not filterable"
  | .unsupportedOperator op kind =>
    "operator '" ++ op.name ++ "' is not valid for " ++ kind.name ++ " columns"
  | .badLiteral text kind => "'" ++ text ++ "' is not a valid " ++ kind.name

namespace Condition

def display (c : Condition) : String :=
  c.column.token ++ String.ofList c.operator.token ++ c.literal.display

def ofParts (columnText : String) (op : Operator) (literalText : String) :
    Except Fault Condition :=
  match Column.ofText? columnText with
  | none => .error (.unknownColumn columnText)
  | some column =>
    if column.kind = .excluded then .error (.excludedColumn column)
    else if !op.appliesTo column.kind then .error (.unsupportedOperator op column.kind)
    else match Value.read? column.kind literalText with
      | none => .error (.badLiteral literalText column.kind)
      | some literal => .ok ⟨column, op, literal⟩

/-- Reads one condition. The leftmost operator parts the text, neither part may be blank, and the
operator's token may not come again. -/
def read (text : String) : Except Fault Condition :=
  let cs := trimChars text.toList
  if cs.isEmpty then .error .empty
  else match Operator.split? cs with
    | none => .error .noOperator
    | some (before, op, after) =>
      let columnText := trimChars before
      let literalText := trimChars after
      if occursIn op.token after || columnText.isEmpty || literalText.isEmpty then
        .error .malformedParts
      else ofParts (String.ofList columnText) op (String.ofList literalText)

/-- Reads the conditions of an expression, which commas part. A blank expression has none. -/
def readAll (expression : String) : List (Except Fault Condition) :=
  let cs := trimChars expression.toList
  if cs.isEmpty then [] else (cs.splitOn ',').map fun part => read (String.ofList part)

def matchesString (op : Operator) (field pattern : String) : Bool :=
  match op with
  | .contains => containsIgnoringCase field pattern
  | .eq => foldEq field pattern
  | .ne => !foldEq field pattern
  | .gt | .gte | .lt | .lte => false

/-- Reals are equal within a tolerance and different beyond it; exactly at it they are neither. -/
def matchesReal (op : Operator) (field literal : Binary64) : Bool :=
  match op with
  | .eq => (field.distance literal).compare? Binary64.epsilon == some .lt
  | .ne => (field.distance literal).compare? Binary64.epsilon == some .gt
  | op => (field.compare? literal).any op.holds

/-- Whether a value satisfies the condition. A literal of another kind satisfies none. -/
def accepts (c : Condition) (value : Value) : Bool :=
  match value, c.literal with
  | .string field, .string pattern => matchesString c.operator field pattern
  | .integer field, .integer n => c.operator.holds (compare field n)
  | .real field, .real x => matchesReal c.operator field x
  | _, _ => false

def isMet (c : Condition) (game : Game) : Bool := c.accepts (c.column.value game)

end Condition
end GameShelf
