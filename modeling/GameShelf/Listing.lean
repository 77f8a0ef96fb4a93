import GameShelf.Game
import GameShelf.Integer
import GameShelf.Binary64.Display
import GameShelf.JsonValue

namespace GameShelf.Listing

def padLeft (width : Nat) (n : Nat) : String :=
  let digits := (toString n).toList
  String.ofList (List.replicate (width - digits.length) ' ' ++ digits)

def tableRow (width : Nat) (n : Nat) (g : Game) : String :=
  padLeft width n ++ ". " ++ g.name ++ "  [rating " ++ g.rating.displayHundredths ++
    ", difficulty " ++ g.difficulty.displayHundredths ++ ", " ++
    displayInteger g.minPlayers ++ "-" ++ displayInteger g.maxPlayers ++ " players, " ++
    displayInteger g.minTime ++ "-" ++ displayInteger g.maxTime ++ " min, " ++
    displayInteger g.year ++ ", rank " ++ displayInteger g.rank ++ "]"

/-- One game a line, numbered from one in a field as wide as the last number. -/
def table (games : List Game) : String :=
  if games.isEmpty then "no games match"
  else
    let width := (toString games.length).length
    "\n".intercalate ((games.zipIdx 1).map fun (g, n) => tableRow width n g)

def jsonReal (x : Binary64) : JsonValue :=
  match x.displayJson? with
  | some numeral => .number numeral
  | none => .null

def jsonRow (n : Nat) (g : Game) : JsonValue :=
  let integer (n : Int64) : JsonValue := .number (displayInteger n)
  .object [("index", .number (toString n)), ("objectname", .string g.name), ("id", integer g.id),
    ("rank", integer g.rank), ("minplayers", integer g.minPlayers),
    ("maxplayers", integer g.maxPlayers), ("minplaytime", integer g.minTime),
    ("maxplaytime", integer g.maxTime), ("yearpublished", integer g.year),
    ("rating", jsonReal g.rating), ("difficulty", jsonReal g.difficulty)]

def json (games : List Game) : String :=
  (JsonValue.array ((games.zipIdx 1).map fun (g, n) => jsonRow n g)).render

def render (asJson : Bool) (games : List Game) : String :=
  if asJson then json games else table games

def names (names : List String) : String :=
  if names.isEmpty then "game list is empty"
  else "\n".intercalate ((names.zipIdx 1).map fun (name, n) => toString n ++ ". " ++ name)

end GameShelf.Listing
