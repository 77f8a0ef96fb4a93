import GameShelf.Proofs.Listing
import GameShelf.Proofs.Shell.Run
import GameShelf.Proofs.Sorting

namespace GameShelf.Shell

def byName (catalog : List Game) : List Entry := Query.empty.run (entries catalog)

def rendered? (s : Shell) (line : String) : Option (List Entry) :=
  match Command.ofLine? line with
  | some (.filter words sort descending) =>
    let order := SortOrder.ofText sort (.ofAscending !descending)
    some (s.search.query (joinWords words) order.column order.direction).working
  | _ => none

def relist (s : Shell) (listing : List Entry) (line : String) : List Entry :=
  if Command.ofLine? line = some .reset then byName s.search.catalog
  else (s.rendered? line).getD listing

def listingFrom (s : Shell) (listing : List Entry) : List String → List Entry
  | [] => listing
  | line :: lines => listingFrom (s.execute line).1 (s.relist listing line) lines

/-- What the last filter rendered; from the start and from a reset on, the whole catalog by name. -/
def listing (catalog : List Game) (json : Bool) (lines : List String) : List Entry :=
  listingFrom (start catalog json) (byName catalog) lines

namespace Trio

def go : Game := ⟨"Go", 1, 0, 2, 5, 0, 0, 2000, ⟨0x401E000000000000⟩, .zero⟩

def chess : Game := ⟨"Chess", 7, 0, 2, 2, 0, 0, 2006, ⟨0x4024000000000000⟩, .zero⟩

def catalog : List Game := [go, .named "Monopoly" 8, chess]

def table : String :=
  "1. Go  [rating 7.50, difficulty 0.00, 2-5 players, 0-0 min, 2000, rank 0]\n" ++
  "2. Chess  [rating 10.00, difficulty 0.00, 2-2 players, 0-0 min, 2006, rank 0]"

end Trio

end GameShelf.Shell
