import GameShelf.Binary64.Basic

namespace GameShelf

structure Game where
  name : String
  id : Int64
  rank : Int64
  minPlayers : Int64
  maxPlayers : Int64
  minTime : Int64
  maxTime : Int64
  year : Int64
  rating : Binary64
  difficulty : Binary64
  deriving DecidableEq

def Game.named (name : String) (id : Int64) : Game := ⟨name, id, 0, 0, 0, 0, 0, 0, .zero, .zero⟩

/-- A row of a catalog. Equal games at different positions are different entries. -/
structure Entry where
  position : Nat
  game : Game
  deriving DecidableEq

def entries (games : List Game) : List Entry :=
  games.zipIdx.map fun (game, position) => ⟨position, game⟩

theorem entries_game (games : List Game) : (entries games).map Entry.game = games := by
  simp [entries, Function.comp_def]

theorem entries_position (games : List Game) :
    (entries games).map Entry.position = List.range games.length := by
  simp [entries, Function.comp_def, List.range_eq_range']

theorem mem_entries (games : List Game) (e : Entry) :
    e ∈ entries games ↔ games[e.position]? = some e.game := by
  rw [← List.mk_mem_zipIdx_iff_getElem?]
  constructor
  · intro h
    obtain ⟨⟨game, position⟩, hm, rfl⟩ := List.mem_map.mp h
    exact hm
  · intro h
    exact List.mem_map.mpr ⟨_, h, rfl⟩

end GameShelf
