import GameShelf.Catalog.Record
import GameShelf.Column
import GameShelf.Files

namespace GameShelf

def Column.header : Column → String
  | .name => "objectname"
  | .id => "id"
  | .rank => "rank"
  | .minPlayers => "minplayers"
  | .maxPlayers => "maxplayers"
  | .minTime => "minplaytime"
  | .maxTime => "maxplaytime"
  | .year => "yearpublished"
  | .rating => "rating"
  | .difficulty => "difficulty"

def Column.headerAlias? : Column → Option String
  | .name => some "name"
  | .minTime => some "mintime"
  | .maxTime => some "maxtime"
  | .year => some "year"
  | .id | .rank | .minPlayers | .maxPlayers | .rating | .difficulty => none

namespace Catalog

inductive FieldError where
  | integer (e : IntegerError)
  | emptyReal
  | invalidReal
  deriving DecidableEq

inductive RowError where
  | field (index : Nat) (e : FieldError)
  | duplicate (column : Column)
  | missing (column : Column)
  | tooShort (fields : Nat)
  deriving DecidableEq

/-- Records count from zero, which is the header. -/
structure RecordLocation where
  record : Nat
  start : Location
  deriving DecidableEq

inductive Error where
  | unequalLengths (place : RecordLocation) (expected found : Nat)
  | invalidUtf8 (place : RecordLocation) (field index : Nat)
  | row (place : RecordLocation) (e : RowError)
  | unreadable (e : FileError)
  deriving DecidableEq

def FieldError.message : FieldError → String
  | .integer e => e.message
  | .emptyReal => "cannot parse float from empty string"
  | .invalidReal => "invalid float literal"

def RowError.message : RowError → String
  | .field index e => "field " ++ toString index ++ ": " ++ e.message
  | .duplicate column => "duplicate field \x60" ++ column.header ++ "\x60"
  | .missing column => "missing field \x60" ++ column.header ++ "\x60"
  | .tooShort fields =>
    "invalid length " ++ toString fields ++ ", expected struct BoardGame with 10 elements"

def RecordLocation.describe (p : RecordLocation) : String :=
  "record " ++ toString p.record ++ " (line: " ++ toString p.start.line ++ ", byte: " ++
    toString p.start.byte ++ ")"

def Error.cause : Error → String
  | .unequalLengths place expected found =>
    "CSV error: " ++ place.describe ++ ": found record with " ++ toString found ++
      " fields, but the previous record has " ++ toString expected ++ " fields"
  | .invalidUtf8 place field index =>
    "CSV parse error: record " ++ toString place.record ++ " (line " ++
      toString place.start.line ++ ", field: " ++ toString field ++ ", byte: " ++
      toString place.start.byte ++ "): invalid utf-8: invalid UTF-8 in field " ++
      toString field ++ " near byte index " ++ toString index
  | .row place e => "CSV deserialize error: " ++ place.describe ++ ": " ++ e.message
  | .unreadable e => e.message

def Error.message (e : Error) : String := "catalog error: " ++ e.cause

end Catalog
end GameShelf
