import GameShelf.Game
import GameShelf.Text.Basic
import GameShelf.Value

namespace GameShelf

inductive Column where
  | name
  | id
  | rank
  | minPlayers
  | maxPlayers
  | minTime
  | maxTime
  | year
  | rating
  | difficulty
  deriving DecidableEq

namespace Column

def all : List Column :=
  [.name, .id, .rank, .minPlayers, .maxPlayers, .minTime, .maxTime, .year, .rating, .difficulty]

def kind : Column → Kind
  | .name => .string
  | .id => .excluded
  | .rank | .minPlayers | .maxPlayers | .minTime | .maxTime | .year => .integer
  | .rating | .difficulty => .real

def token : Column → String
  | .name => "name"
  | .id => "id"
  | .rank => "rank"
  | .minPlayers => "minplayers"
  | .maxPlayers => "maxplayers"
  | .minTime => "mintime"
  | .maxTime => "maxtime"
  | .year => "year"
  | .rating => "rating"
  | .difficulty => "difficulty"

def alias? : Column → Option String
  | .name => some "objectname"
  | .minTime => some "minplaytime"
  | .maxTime => some "maxplaytime"
  | .year => some "yearpublished"
  | .rating => some "avgrating"
  | .difficulty => some "weight"
  | .id | .rank | .minPlayers | .maxPlayers => none

def tokens (column : Column) : List String := column.token :: column.alias?.toList

def value (column : Column) (game : Game) : Value :=
  match column with
  | .name => .string game.name
  | .id => .integer game.id
  | .rank => .integer game.rank
  | .minPlayers => .integer game.minPlayers
  | .maxPlayers => .integer game.maxPlayers
  | .minTime => .integer game.minTime
  | .maxTime => .integer game.maxTime
  | .year => .integer game.year
  | .rating => .real game.rating
  | .difficulty => .real game.difficulty

/-- The column that a text names, whatever the case of its letters and the blanks around it. -/
def ofText? (text : String) : Option Column :=
  all.find? fun column => column.tokens.any (asciiEq · (trim text))

def position (column : Column) : Nat := all.idxOf column

def title : Column → String
  | .name => "Name"
  | .id => "Id"
  | .rank => "Rank"
  | .minPlayers => "MinPlayers"
  | .maxPlayers => "MaxPlayers"
  | .minTime => "MinTime"
  | .maxTime => "MaxTime"
  | .year => "Year"
  | .rating => "Rating"
  | .difficulty => "Difficulty"

def describe (column : Column) : String :=
  let kind := match column.kind with
    | .string => "String"
    | .integer => "Integer"
    | .real => "Real"
    | .excluded => "Excluded"
  let tokens := ", ".intercalate (column.tokens.map fun t => "\"" ++ t ++ "\"")
  "ColumnSpec \x7b column: " ++ column.title ++ ", kind: " ++ kind ++ ", tokens: [" ++ tokens ++
    "] \x7d"

theorem mem_all (column : Column) : column ∈ all := by
  cases column <;> decide

end Column
end GameShelf
