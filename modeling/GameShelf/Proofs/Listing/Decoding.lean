import GameShelf.Proofs.Integer
import GameShelf.Proofs.JsonValue.Numerals
import GameShelf.Proofs.JsonValue.Printing
import GameShelf.Proofs.JsonValue.Reader
import GameShelf.Proofs.Listing

namespace GameShelf

def JsonValue.keys : JsonValue → List String
  | .object members => members.map Prod.fst
  | _ => []

namespace Listing

def ShowsInteger (n : Int) (v : Option JsonValue) : Prop :=
  v.bind JsonValue.number? = some (.ofInt n)

/-- A double is shown as a decimal to which it is the nearest, if it is a number. -/
structure ShowsReal (x : Binary64) (v : Option JsonValue) : Prop where
  null_iff : v = some .null ↔ x.isNaN = true ∨ x.magnitude = Binary64.infinityMagnitude
  nearest : x.isFinite = true →
    (v.bind JsonValue.number?).map Decimal.toBinary64 = some x

structure Shows (n : Nat) (g : Game) (row : JsonValue) : Prop where
  keys : row.keys.Nodup
  index : ShowsInteger n (row.member? "index")
  objectname : row.member? "objectname" = some (.string g.name)
  id : ShowsInteger g.id.toInt (row.member? "id")
  rank : ShowsInteger g.rank.toInt (row.member? "rank")
  minplayers : ShowsInteger g.minPlayers.toInt (row.member? "minplayers")
  maxplayers : ShowsInteger g.maxPlayers.toInt (row.member? "maxplayers")
  minplaytime : ShowsInteger g.minTime.toInt (row.member? "minplaytime")
  maxplaytime : ShowsInteger g.maxTime.toInt (row.member? "maxplaytime")
  yearpublished : ShowsInteger g.year.toInt (row.member? "yearpublished")
  rating : ShowsReal g.rating (row.member? "rating")
  difficulty : ShowsReal g.difficulty (row.member? "difficulty")

theorem showsInteger_toString (n : Int) : ShowsInteger n (some (.number (toString n))) :=
  JsonValue.number?_toString n

theorem wellFormed_toString (n : Int) : (JsonValue.number (toString n)).WellFormed :=
  .number (JsonValue.isNumber_toString n)

theorem isFinite_eq_false_iff {x : Binary64} :
    x.isFinite = false ↔ x.isNaN = true ∨ x.magnitude = Binary64.infinityMagnitude := by
  simp only [Binary64.isFinite, Binary64.isNaN, decide_eq_false_iff_not, decide_eq_true_eq]
  omega

theorem jsonReal_cases (x : Binary64) :
    x.isFinite = false ∧ jsonReal x = .null ∨
      x.isFinite = true ∧ ∃ numeral, jsonReal x = .number numeral ∧
        JsonValue.IsNumber numeral.toList ∧
        (JsonValue.number? (.number numeral)).map Decimal.toBinary64 = some x := by
  cases hx : x.isFinite with
  | false =>
    refine .inl ⟨rfl, ?_⟩
    rw [jsonReal, JsonValue.displayJson?_of_not_isFinite hx]
  | true =>
    obtain ⟨numeral, hdisplay, hnumber, hvalue⟩ := JsonValue.number?_displayJson hx
    refine .inr ⟨rfl, numeral, ?_, hnumber, hvalue⟩
    rw [jsonReal, hdisplay]

theorem showsReal_jsonReal (x : Binary64) : ShowsReal x (some (jsonReal x)) := by
  rcases jsonReal_cases x with ⟨hx, h⟩ | ⟨hx, numeral, h, -, hvalue⟩
  · refine ⟨iff_of_true (congrArg some h) (isFinite_eq_false_iff.mp hx), fun hfinite => ?_⟩
    rw [hx] at hfinite
    cases hfinite
  · rw [h]
    refine ⟨iff_of_false nofun fun hnot => ?_, fun _ => hvalue⟩
    rw [isFinite_eq_false_iff.mpr hnot] at hx
    cases hx

theorem wellFormed_jsonReal (x : Binary64) : (jsonReal x).WellFormed := by
  rcases jsonReal_cases x with ⟨-, h⟩ | ⟨-, numeral, h, hnumber, -⟩
  · rw [h]
    exact .null
  · rw [h]
    exact .number hnumber

theorem shows_jsonRow (n : Nat) (g : Game) : Shows n g (jsonRow n g) where
  keys := by
    have hkeys : (jsonRow n g).keys = ["index", "objectname", "id", "rank", "minplayers",
      "maxplayers", "minplaytime", "maxplaytime", "yearpublished", "rating", "difficulty"] := rfl
    rw [hkeys]
    decide
  index := showsInteger_toString n
  objectname := rfl
  id := showsInteger_toString _
  rank := showsInteger_toString _
  minplayers := showsInteger_toString _
  maxplayers := showsInteger_toString _
  minplaytime := showsInteger_toString _
  maxplaytime := showsInteger_toString _
  yearpublished := showsInteger_toString _
  rating := showsReal_jsonReal _
  difficulty := showsReal_jsonReal _

theorem wellFormed_jsonRow (n : Nat) (g : Game) : (jsonRow n g).WellFormed := by
  apply JsonValue.WellFormed.object
  simp only [List.forall_mem_cons]
  exact ⟨wellFormed_toString n, .string _, wellFormed_toString _, wellFormed_toString _,
    wellFormed_toString _, wellFormed_toString _, wellFormed_toString _, wellFormed_toString _,
    wellFormed_toString _, wellFormed_jsonReal _, wellFormed_jsonReal _, nofun⟩

def jsonRows (games : List Game) : List JsonValue :=
  (games.zipIdx 1).map fun (g, n) => jsonRow n g

theorem wellFormed_jsonRows (games : List Game) :
    (JsonValue.array (jsonRows games)).WellFormed := by
  refine .array fun row hrow => ?_
  obtain ⟨⟨g, n⟩, -, rfl⟩ := List.mem_map.mp hrow
  exact wellFormed_jsonRow n g

theorem denotes_json_iff (games : List Game) (v : JsonValue) :
    JsonValue.Denotes (json games) v ↔ v = .array (jsonRows games) := by
  have hjson : json games = (JsonValue.array (jsonRows games)).render := rfl
  have hread := JsonValue.read?_of_denotes (JsonValue.denotes_render (wellFormed_jsonRows games))
  rw [hjson, ← JsonValue.read?_eq_some_iff, hread, Option.some.injEq]
  exact eq_comm

theorem getElem?_jsonRows {games : List Game} {k : Nat} {g : Game} (h : games[k]? = some g) :
    (jsonRows games)[k]? = some (jsonRow (k + 1) g) := by
  simp [jsonRows, List.getElem?_zipIdx, h, Nat.add_comm 1 k]

/-- By the grammar of JSON the text denotes an array of as many objects as there are games, and
nothing else; each object shows its game. -/
theorem json_decodes_to_games (games : List Game) :
    ∃ rows : List JsonValue, (∀ v, JsonValue.Denotes (json games) v ↔ v = .array rows) ∧
      rows.length = games.length ∧
      ∀ k g, games[k]? = some g → ∃ row, rows[k]? = some row ∧ Shows (k + 1) g row := by
  refine ⟨jsonRows games, denotes_json_iff games, ?_, fun k g hk => ?_⟩
  · rw [jsonRows, List.length_map, List.length_zipIdx]
  · exact ⟨jsonRow (k + 1) g, getElem?_jsonRows hk, shows_jsonRow (k + 1) g⟩

def escapedGame : Game :=
  { Game.named "\"\\\n\x01😀" (-9223372036854775808) with rating := .nan }

theorem json_decodes_to_games_of_escaped_name :
    [Game.named "Go" 1, escapedGame][1]? = some escapedGame ∧
      ∃ rows : List JsonValue,
        (∀ v, JsonValue.Denotes (json [Game.named "Go" 1, escapedGame]) v ↔ v = .array rows) ∧
        rows.length = 2 ∧ ∃ row, rows[1]? = some row ∧ Shows 2 escapedGame row := by
  obtain ⟨rows, hdenotes, hlength, hrows⟩ :=
    json_decodes_to_games [Game.named "Go" 1, escapedGame]
  exact ⟨rfl, rows, hdenotes, hlength, hrows 1 escapedGame rfl⟩

end Listing
end GameShelf
