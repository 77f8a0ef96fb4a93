import GameShelf.Query

namespace GameShelf

structure Search where
  catalog : List Game
  working : List Entry

namespace Search

def start (catalog : List Game) : Search := ⟨catalog, entries catalog⟩

/-- The result of the query is the working set of the next. -/
def query (s : Search) (expression : String) (column : Column) (direction : Direction) : Search :=
  { s with working := ((Query.ofExpression expression).orderBy column direction).run s.working }

def filterSorted (s : Search) (expression : String) (column : Column) : Search :=
  s.query expression column .ascending

def filter (s : Search) (expression : String) : Search := s.filterSorted expression .name

def reset (s : Search) : Search := start s.catalog

/-- The rows that a query answers: a copy of what it leaves. -/
def answer (s : Search) : List Entry := s.working

inductive Call where
  | filter (expression : String)
  | filterSorted (expression : String) (column : Column)
  | query (expression : String) (column : Column) (direction : Direction)
  | reset
  deriving DecidableEq

def answered (s : Search) : Search × Option (List Entry) := (s, some s.answer)

def call (s : Search) : Call → Search × Option (List Entry)
  | .filter expression => answered (s.filter expression)
  | .filterSorted expression column => answered (s.filterSorted expression column)
  | .query expression column direction => answered (s.query expression column direction)
  | .reset => (s.reset, none)

end Search
end GameShelf
