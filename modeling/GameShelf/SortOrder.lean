import GameShelf.Column

namespace GameShelf

inductive Direction where
  | ascending
  | descending
  deriving DecidableEq

namespace Direction

def ofAscending (ascending : Bool) : Direction := if ascending then .ascending else .descending

def apply : Direction → Ordering → Ordering
  | .ascending, o => o
  | .descending, o => o.swap

def name : Direction → String
  | .ascending => "asc"
  | .descending => "desc"

end Direction

def nameCompare (a b : String) : Ordering := (foldCompare a b).then (compare a b)

structure SortOrder where
  column : Column
  direction : Direction
  deriving DecidableEq

namespace SortOrder

def byName : SortOrder := ⟨.name, .ascending⟩

/-- An excluded column gives the order by name, ascending. -/
def of (column : Column) (direction : Direction) : SortOrder :=
  if column.kind = .excluded then byName else ⟨column, direction⟩

def ofText (text : String) (direction : Direction) : SortOrder :=
  match Column.ofText? text with
  | some column => of column direction
  | none => byName

/-- The column in the order's direction, then name and id, both ascending. -/
def compare (order : SortOrder) (a b : Game) : Ordering :=
  (order.direction.apply ((order.column.value a).compare (order.column.value b))).then
    ((nameCompare a.name b.name).then (Ord.compare a.id b.id))

def sort (order : SortOrder) (rows : List Entry) : List Entry :=
  rows.mergeSort fun a b => (order.compare a.game b.game).isLE

theorem sort_perm (order : SortOrder) (rows : List Entry) : (order.sort rows).Perm rows :=
  List.mergeSort_perm _ _

end SortOrder
end GameShelf
