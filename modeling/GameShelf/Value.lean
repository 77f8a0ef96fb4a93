import GameShelf.Binary64.Display
import GameShelf.Integer
import GameShelf.Text.Fold

namespace GameShelf

inductive Kind where
  | string
  | integer
  | real
  /-- In the catalog, but neither filtered nor sorted on. -/
  | excluded
  deriving DecidableEq

def Kind.name : Kind → String
  | .string => "string"
  | .integer => "integer"
  | .real => "real"
  | .excluded => "excluded"

inductive Value where
  | string (s : String)
  | integer (n : Int64)
  | real (x : Binary64)
  deriving DecidableEq

namespace Value

def kind : Value → Kind
  | .string _ => .string
  | .integer _ => .integer
  | .real _ => .real

def read? (kind : Kind) (s : String) : Option Value :=
  match kind with
  | .string => some (.string s)
  | .integer => (readInteger .decimal s.toList).toOption.map .integer
  | .real => (Binary64.read? s).map .real
  | .excluded => none

def display : Value → String
  | .string s => s
  | .integer n => displayInteger n
  | .real x => x.display

/-- The sorting order: strings whatever their case, reals totally, so that NaNs have places. Values
of different kinds count as equal. -/
def compare : Value → Value → Ordering
  | .string a, .string b => foldCompare a b
  | .integer a, .integer b => Ord.compare a b
  | .real a, .real b => a.totalCompare b
  | _, _ => .eq

end Value
end GameShelf
