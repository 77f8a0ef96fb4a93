import GameShelf.Proofs.Binary64.Comparison
import GameShelf.Proofs.Condition.Printing
import GameShelf.Query

namespace GameShelf

namespace Operator

def complement? : Operator → Option Operator
  | .eq => some .ne
  | .ne => some .eq
  | .gt => some .lte
  | .lte => some .gt
  | .lt => some .gte
  | .gte => some .lt
  | .contains => none

def comparesOrder : Operator → Bool
  | .gt | .gte | .lt | .lte => true
  | .contains | .eq | .ne => false

theorem holds_complement {op other : Operator} (h : op.complement? = some other) (o : Ordering) :
    other.holds o = !op.holds o := by
  cases op <;> cases h <;> cases o <;> rfl

theorem comparesOrder_complement {op other : Operator} (h : op.complement? = some other) :
    other.comparesOrder = op.comparesOrder := by
  cases op <;> cases h <;> rfl

/-- `holds`, without an answer for the operator that compares nothing. -/
def holds? : Operator → Ordering → Option Bool
  | .contains, _ => none
  | op, o => some (op.holds o)

theorem holds?_of_onNumbers {op : Operator} (h : op.onNumbers = true) (o : Ordering) :
    op.holds? o = some (op.holds o) := by
  cases op with
  | contains => cases h
  | eq | ne | gt | gte | lt | lte => rfl

end Operator

namespace Value

theorem eq_string_of_kind {v : Value} (h : v.kind = .string) : ∃ s, v = .string s := by
  cases v with
  | string s => exact ⟨s, rfl⟩
  | integer n | real x => cases h

theorem eq_integer_of_kind {v : Value} (h : v.kind = .integer) : ∃ n, v = .integer n := by
  cases v with
  | integer n => exact ⟨n, rfl⟩
  | string s | real x => cases h

theorem eq_real_of_kind {v : Value} (h : v.kind = .real) : ∃ x, v = .real x := by
  cases v with
  | real x => exact ⟨x, rfl⟩
  | string s | integer n => cases h

end Value

theorem Column.kind_value {column : Column} (h : column.kind ≠ .excluded) (game : Game) :
    (column.value game).kind = column.kind := by
  cases column with
  | id => exact absurd rfl h
  | name | rank | minPlayers | maxPlayers | minTime | maxTime | year | rating | difficulty => rfl

namespace Condition

def matchesString? (op : Operator) (field pattern : String) : Option Bool :=
  match op with
  | .contains | .eq | .ne => some (matchesString op field pattern)
  | .gt | .gte | .lt | .lte => none

def matchesReal? (op : Operator) (field literal : Binary64) : Option Bool :=
  match op with
  | .eq | .ne => some (matchesReal op field literal)
  | op =>
    match field.compare? literal with
    | some o => op.holds? o
    | none => some false

/-- `accepts`, without an answer where kinds differ or the operator is for another kind. -/
def accepts? (c : Condition) (value : Value) : Option Bool :=
  match value, c.literal with
  | .string field, .string pattern => matchesString? c.operator field pattern
  | .integer field, .integer n => c.operator.holds? (compare field n)
  | .real field, .real x => matchesReal? c.operator field x
  | _, _ => none

theorem matchesString?_of_onStrings {op : Operator} (h : op.onStrings = true)
    (field pattern : String) :
    matchesString? op field pattern = some (matchesString op field pattern) := by
  cases op with
  | contains | eq | ne => rfl
  | gt | gte | lt | lte => cases h

theorem matchesReal?_of_onNumbers {op : Operator} (h : op.onNumbers = true)
    (field literal : Binary64) :
    matchesReal? op field literal = some (matchesReal op field literal) := by
  cases op with
  | contains => cases h
  | eq | ne => rfl
  | gt | gte | lt | lte =>
    simp only [matchesReal?, matchesReal]
    cases field.compare? literal <;> rfl

/-- What reading sees to: the column can be filtered on, and operator and literal are of its
kind. -/
structure WellTyped (c : Condition) : Prop where
  kind_ne : c.column.kind ≠ .excluded
  appliesTo : c.operator.appliesTo c.column.kind = true
  kind_literal : c.literal.kind = c.column.kind

theorem wellTyped_of_read {text : String} {c : Condition} (h : read text = .ok c) :
    c.WellTyped := by
  obtain ⟨s, -⟩ := exists_spelling_of_read h
  exact ⟨s.kind_ne, s.appliesTo, Value.kind_of_read? s.read_literal⟩

inductive Compares (c : Condition) (game : Game) : Prop where
  | strings (field pattern : String) (hkind : c.column.kind = .string)
      (hfield : c.column.value game = .string field) (hliteral : c.literal = .string pattern)
      (hop : c.operator.onStrings = true)
  | integers (field n : Int64) (hkind : c.column.kind = .integer)
      (hfield : c.column.value game = .integer field) (hliteral : c.literal = .integer n)
      (hop : c.operator.onNumbers = true)
  | reals (field x : Binary64) (hkind : c.column.kind = .real)
      (hfield : c.column.value game = .real field) (hliteral : c.literal = .real x)
      (hop : c.operator.onNumbers = true)

theorem WellTyped.compares {c : Condition} (h : c.WellTyped) (game : Game) : c.Compares game := by
  have hfield := Column.kind_value h.kind_ne game
  have hliteral := h.kind_literal
  have hop := h.appliesTo
  cases hk : c.column.kind with
  | string =>
    rw [hk] at hfield hliteral hop
    obtain ⟨field, hf⟩ := Value.eq_string_of_kind hfield
    obtain ⟨pattern, hl⟩ := Value.eq_string_of_kind hliteral
    exact .strings field pattern hk hf hl hop
  | integer =>
    rw [hk] at hfield hliteral hop
    obtain ⟨field, hf⟩ := Value.eq_integer_of_kind hfield
    obtain ⟨n, hl⟩ := Value.eq_integer_of_kind hliteral
    exact .integers field n hk hf hl hop
  | real =>
    rw [hk] at hfield hliteral hop
    obtain ⟨field, hf⟩ := Value.eq_real_of_kind hfield
    obtain ⟨x, hl⟩ := Value.eq_real_of_kind hliteral
    exact .reals field x hk hf hl hop
  | excluded => exact absurd hk h.kind_ne

theorem accepts?_of_compares {c : Condition} {game : Game} (h : c.Compares game) :
    c.accepts? (c.column.value game) = some (c.isMet game) := by
  cases h with
  | strings field pattern _ hfield hliteral hop =>
    simp only [accepts?, isMet, accepts, hfield, hliteral, matchesString?_of_onStrings hop]
  | integers field n _ hfield hliteral hop =>
    simp only [accepts?, isMet, accepts, hfield, hliteral, Operator.holds?_of_onNumbers hop]
  | reals field x _ hfield hliteral hop =>
    simp only [accepts?, isMet, accepts, hfield, hliteral, matchesReal?_of_onNumbers hop]

def withOperator (c : Condition) (op : Operator) : Condition := { c with operator := op }

def involvesNaN (c : Condition) (game : Game) : Bool :=
  match c.column.value game, c.literal with
  | .real field, .real x => field.isNaN || x.isNaN
  | _, _ => false

theorem matchesReal_of_isNaN {field x : Binary64} (h : (field.isNaN || x.isNaN) = true)
    (op : Operator) : matchesReal op field x = false := by
  have hnan : Binary64.nan.compare? .epsilon = none := by decide
  cases op with
  | eq | ne => simp only [matchesReal, Binary64.distance_of_isNaN h, hnan, reduceBEq]
  | contains | gt | gte | lt | lte =>
    simp only [matchesReal, Binary64.compare?_of_isNaN h, Option.any_none]

theorem isMet_of_involvesNaN {c : Condition} {game : Game} (h : c.involvesNaN game = true)
    (op : Operator) : (c.withOperator op).isMet game = false := by
  unfold involvesNaN at h
  split at h
  · next field x hfield hliteral =>
    simp only [isMet, accepts, withOperator, hfield, hliteral, matchesReal_of_isNaN h]
  · cases h

/-- What it takes for a condition and its complement to leave a game to exactly one of them: of
reals, that their order is compared and that they have one. -/
def Splits (c : Condition) (game : Game) : Prop :=
  c.column.kind = .real → c.operator.comparesOrder = true ∧ c.involvesNaN game = false

theorem matchesString_complement {op other : Operator} (hop : op.onStrings = true)
    (h : op.complement? = some other) (field pattern : String) :
    matchesString other field pattern = !matchesString op field pattern := by
  cases op with
  | contains => cases h
  | eq =>
    cases h
    rfl
  | ne =>
    cases h
    exact (Bool.not_not _).symm
  | gt | gte | lt | lte => cases hop

theorem matchesReal_eq_any {op : Operator} (hop : op.comparesOrder = true)
    (field x : Binary64) : matchesReal op field x = (field.compare? x).any op.holds := by
  cases op with
  | contains | eq | ne => cases hop
  | gt | gte | lt | lte => rfl

theorem matchesReal_of_comparesOrder {op : Operator} (hop : op.comparesOrder = true)
    {field x : Binary64} (hnan : (field.isNaN || x.isNaN) = false) :
    matchesReal op field x = op.holds (compare field.key x.key) := by
  rw [matchesReal_eq_any hop, Binary64.compare?_of_not_isNaN hnan, Option.any_some]

theorem isMet_complement {c : Condition} {game : Game} (hc : c.Compares game)
    (hs : c.Splits game) {op : Operator} (h : c.operator.complement? = some op) :
    (c.withOperator op).isMet game = !c.isMet game := by
  cases hc with
  | strings field pattern _ hfield hliteral hop =>
    simp only [isMet, accepts, withOperator, hfield, hliteral, matchesString_complement hop h]
  | integers field n _ hfield hliteral _ =>
    simp only [isMet, accepts, withOperator, hfield, hliteral, Operator.holds_complement h]
  | reals field x hkind hfield hliteral _ =>
    obtain ⟨horder, hnan⟩ := hs hkind
    simp only [involvesNaN, hfield, hliteral] at hnan
    have hother := (Operator.comparesOrder_complement h).trans horder
    simp only [isMet, accepts, withOperator, hfield, hliteral,
      matchesReal_of_comparesOrder horder hnan, matchesReal_of_comparesOrder hother hnan,
      Operator.holds_complement h]

/-- Rows in two parts: no row is in both, every row is in one, and both keep the sequence. -/
structure Parts (rows left right : List Entry) : Prop where
  disjoint : left.Disjoint right
  sublist_left : left.Sublist rows
  sublist_right : right.Sublist rows
  perm : (left ++ right).Perm rows

theorem parts_filter {rows : List Entry} {p q : Entry → Bool} (h : ∀ e ∈ rows, q e = !p e) :
    Parts rows (rows.filter p) (rows.filter q) := by
  have hq : rows.filter q = rows.filter fun e => !p e := List.filter_congr h
  refine ⟨fun e hl hr => ?_, List.filter_sublist, List.filter_sublist, ?_⟩
  · obtain ⟨hm, hp⟩ := List.mem_filter.mp hl
    have hqe := (List.mem_filter.mp hr).2
    rw [h e hm, hp] at hqe
    cases hqe
  · rw [hq]
    exact List.filter_append_perm p rows

theorem narrow_single (c : Condition) (rows : List Entry) :
    (Query.empty.and c).narrow rows = rows.filter fun e => c.isMet e.game := rfl

/-- A condition that has been read and its complement part every list of games in two. Of two reals
their order has to be compared, and neither may be a NaN: where one is, the condition is met with no
operator. Matching always has an answer, as the literal has the kind of the field and the operator
is one for that kind. -/
theorem complements_part_every_list {text : String} {c : Condition} (h : read text = .ok c) :
    (∀ op, c.operator.complement? = some op →
      (∀ game, c.Splits game → (c.withOperator op).isMet game = !c.isMet game) ∧
      ∀ rows : List Entry, (∀ e ∈ rows, c.Splits e.game) →
        Parts rows ((Query.empty.and c).narrow rows)
          ((Query.empty.and (c.withOperator op)).narrow rows)) ∧
    (∀ game, c.involvesNaN game = true →
      ∀ op, (c.withOperator op).isMet game = false) ∧
    ∀ game, c.literal.kind = (c.column.value game).kind ∧
      c.accepts? (c.column.value game) = some (c.isMet game) := by
  have ht := wellTyped_of_read h
  refine ⟨fun op hop => ⟨fun game hs => ?_, fun rows hs => ?_⟩,
    fun game hnan op => isMet_of_involvesNaN hnan op, fun game => ⟨?_, ?_⟩⟩
  · exact isMet_complement (ht.compares game) hs hop
  · rw [narrow_single, narrow_single]
    exact parts_filter fun e he => isMet_complement (ht.compares e.game) (hs e he) hop
  · rw [ht.kind_literal, Column.kind_value ht.kind_ne]
  · exact accepts?_of_compares (ht.compares game)

theorem complements_part_every_list_of_ratings :
    let c : Condition := ⟨.rating, .lt, .real ⟨0x401E000000000000⟩⟩
    let other := c.withOperator .gte
    let rated (name : String) (rating : Binary64) : Game := { Game.named name 1 with rating }
    let rows :=
      entries [rated "Go" ⟨0x401E000000000000⟩, rated "Chess" .zero, rated "Tag" .infinity]
    read "rating < 7.5" = .ok c ∧ c.operator.complement? = some .gte ∧
      (∀ e ∈ rows, c.Splits e.game) ∧
      Parts rows ((Query.empty.and c).narrow rows) ((Query.empty.and other).narrow rows) ∧
      c.involvesNaN (rated "Nim" .nan) = true ∧ c.isMet (rated "Nim" .nan) = false ∧
      other.isMet (rated "Nim" .nan) = false := by
  intro c other rated rows
  have hread : read "rating < 7.5" = .ok c := by decide +kernel
  have hnumbers : ∀ e ∈ rows, c.involvesNaN e.game = false := by decide
  have hsplits : ∀ e ∈ rows, c.Splits e.game := fun e he _ => ⟨rfl, hnumbers e he⟩
  have hnan : c.involvesNaN (rated "Nim" .nan) = true := by decide
  obtain ⟨hparts, hnone, -⟩ := complements_part_every_list hread
  exact ⟨hread, rfl, hsplits, (hparts .gte rfl).2 rows hsplits, hnan, hnone _ hnan .lt,
    hnone _ hnan .gte⟩

end Condition
end GameShelf
