import GameShelf.Proofs.Binary64.Comparison
import GameShelf.Proofs.Condition.Grammar

namespace GameShelf.Condition

theorem matchesReal_order_of_eq {field x : Binary64} (h : field.compare? x = some .eq) :
    matchesReal .gte field x = true ∧ matchesReal .lte field x = true ∧
      matchesReal .gt field x = false ∧ matchesReal .lt field x = false := by
  simp only [matchesReal, h, Option.any_some]
  decide

theorem matchesReal_tolerance_of_eq {field x : Binary64} (h : field.compare? x = some .eq) :
    matchesReal .eq field x = field.isFinite ∧ matchesReal .ne field x = false := by
  obtain ⟨hfield, hx, hkey⟩ := Binary64.compare?_eq_eq_iff.mp h
  have hdistance := Binary64.distance_of_key_eq hfield hx hkey
  cases hfinite : field.isFinite with
  | true =>
    have hzero : Binary64.zero.compare? .epsilon = some .lt := by decide
    simp only [matchesReal, hdistance, hfinite, if_true, hzero]
    decide
  | false =>
    have hnan : Binary64.nan.compare? .epsilon = none := by decide
    simp only [matchesReal, hdistance, hfinite, Bool.false_eq_true, if_false, hnan]
    decide

def ofReal (column : Column) (op : Operator) (x : Binary64) : Condition := ⟨column, op, .real x⟩

theorem isMet_ofReal {column : Column} {game : Game} {v : Binary64}
    (hv : column.value game = .real v) (op : Operator) (x : Binary64) :
    (ofReal column op x).isMet game = matchesReal op v x := by
  simp only [isMet, accepts, ofReal, hv]

/-- A game whose real is not a NaN is at least and at most what it is, and neither differs from it
nor lies above or below it, and of the two zeros each counts as the other. It equals what it is
exactly if it is finite: an infinity has no distance to itself, let alone a small one. -/
theorem equals_itself_unless_infinite {column : Column} {game : Game} {v : Binary64}
    (hv : column.value game = .real v) (hnan : v.isNaN = false) :
    v.compare? v = some .eq ∧
    ∀ x, v.compare? x = some .eq →
      ((ofReal column .eq x).isMet game = true ↔ v.isFinite = true) ∧
      (ofReal column .gte x).isMet game = true ∧ (ofReal column .lte x).isMet game = true ∧
      (ofReal column .ne x).isMet game = false ∧ (ofReal column .gt x).isMet game = false ∧
      (ofReal column .lt x).isMet game = false := by
  refine ⟨Binary64.compare?_eq_eq_iff.mpr ⟨hnan, hnan, rfl⟩, fun x hx => ?_⟩
  obtain ⟨hgte, hlte, hgt, hlt⟩ := matchesReal_order_of_eq hx
  obtain ⟨heq, hne⟩ := matchesReal_tolerance_of_eq hx
  simp only [isMet_ofReal hv, heq, hgte, hlte, hne, hgt, hlt, and_self]

theorem equals_itself_of_least_and_zero :
    let rated (rating : Binary64) : Game := { Game.named "Go" 1 with rating }
    let least : Binary64 := ⟨1⟩
    let minusZero : Binary64 := ⟨0x8000000000000000⟩
    (Column.rating.value (rated least) = .real least ∧ least.isNaN = false ∧
      (ofReal .rating .eq least).isMet (rated least) = true) ∧
    Column.rating.value (rated .zero) = .real .zero ∧ Binary64.zero.isNaN = false ∧
      Binary64.zero.compare? minusZero = some .eq ∧
      (ofReal .rating .eq minusZero).isMet (rated .zero) = true := by
  intro rated least minusZero
  have hleast : least.isNaN = false := by decide
  have hzero : Binary64.zero.isNaN = false := by decide
  have hsame : Binary64.zero.compare? minusZero = some .eq := by decide
  have hrated : ∀ x, Column.rating.value (rated x) = .real x := fun _ => rfl
  obtain ⟨hself, hall⟩ := equals_itself_unless_infinite (hrated least) hleast
  obtain ⟨-, hzeros⟩ := equals_itself_unless_infinite (hrated .zero) hzero
  exact ⟨⟨rfl, hleast, (hall least hself).1.mpr (by decide)⟩, rfl, hzero, hsame,
    (hzeros minusZero hsame).1.mpr (by decide)⟩

/-- An infinity is at least and at most itself, but neither equal to itself nor different. -/
theorem infinity_is_not_itself :
    let game : Game := { Game.named "Go" 1 with rating := .infinity }
    read "rating==inf" = .ok (ofReal .rating .eq .infinity) ∧
      Column.rating.value game = .real .infinity ∧ Binary64.infinity.isNaN = false ∧
      (ofReal .rating .eq .infinity).isMet game = false ∧
      (ofReal .rating .ne .infinity).isMet game = false ∧
      (ofReal .rating .gte .infinity).isMet game = true ∧
      (ofReal .rating .lte .infinity).isMet game = true := by
  intro game
  decide

end GameShelf.Condition
