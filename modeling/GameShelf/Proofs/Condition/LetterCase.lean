import GameShelf.Proofs.Binary64.Spelling
import GameShelf.Proofs.Integer
import GameShelf.Query

namespace GameShelf

theorem Column.ofText?_toLower (text : String) : ofText? text.toLower = ofText? text := by
  simp only [ofText?, trim_toLower, asciiEq_toLower]

namespace Operator

theorem not_isLetter_of_mem_token (op : Operator) : ∀ c ∈ op.token, ¬IsLetter c := by
  have hall : op.token.all (fun c => !decide (IsLetter c)) = true := by cases op <;> decide
  simpa using hall

theorem atStart?_map_toLower (cs : List Char) :
    atStart? (cs.map Char.toLower) = atStart? cs := by
  have h : ∀ op : Operator, op.token.isPrefixOf (cs.map Char.toLower) = op.token.isPrefixOf cs :=
    fun op => isPrefixOf_map_toLower op.not_isLetter_of_mem_token cs
  simp only [atStart?, h]

def lowerParts (parts : List Char × Operator × List Char) : List Char × Operator × List Char :=
  (parts.1.map Char.toLower, parts.2.1, parts.2.2.map Char.toLower)

theorem split?_map_toLower (cs : List Char) :
    split? (cs.map Char.toLower) = (split? cs).map lowerParts := by
  induction cs with
  | nil => rfl
  | cons c cs ih =>
    have ha := atStart?_map_toLower (c :: cs)
    rw [List.map_cons] at ha ⊢
    unfold split?
    rw [ha]
    cases atStart? (c :: cs) with
    | some op => simp [lowerParts, List.map_drop]
    | none => simp [ih, lowerParts, Function.comp_def]

end Operator

def Value.lowered : Value → Value
  | .string s => .string s.toLower
  | v => v

theorem Value.read?_toLower (kind : Kind) (s : String) :
    read? kind s.toLower = (read? kind s).map lowered := by
  cases kind with
  | string | excluded => rfl
  | integer =>
    simp only [read?, toList_toLower, readInteger_map_toLower, Option.map_map]
    rfl
  | real =>
    simp only [read?, Binary64.read?_toLower, Option.map_map]
    rfl

def Fault.lowered : Fault → Fault
  | .unknownColumn text => .unknownColumn text.toLower
  | .badLiteral text kind => .badLiteral text.toLower kind
  | f => f

namespace Condition

def lowered (c : Condition) : Condition := { c with literal := c.literal.lowered }

def lowerReading : Except Fault Condition → Except Fault Condition
  | .ok c => .ok c.lowered
  | .error f => .error f.lowered

theorem ofParts_toLower (columnText literalText : String) (op : Operator) :
    ofParts columnText.toLower op literalText.toLower =
      lowerReading (ofParts columnText op literalText) := by
  simp only [ofParts, Column.ofText?_toLower, Value.read?_toLower]
  cases Column.ofText? columnText with
  | none => rfl
  | some column =>
    simp only
    split
    · rfl
    · split
      · rfl
      · cases Value.read? column.kind literalText with
        | none => rfl
        | some literal => rfl

theorem read_toLower (text : String) : read text.toLower = lowerReading (read text) := by
  simp only [read, toList_toLower, trimChars_map_toLower, List.isEmpty_map,
    Operator.split?_map_toLower]
  split
  · rfl
  · cases Operator.split? (trimChars text.toList) with
    | none => rfl
    | some parts =>
      obtain ⟨before, op, after⟩ := parts
      have ho := occursIn_map_toLower op.not_isLetter_of_mem_token after
      simp only [Option.map_some, Operator.lowerParts, ho, trimChars_map_toLower,
        List.isEmpty_map, ofList_map_toLower, ofParts_toLower]
      split
      · rfl
      · rfl

theorem readAll_toLower (expression : String) :
    readAll expression.toLower = (readAll expression).map lowerReading := by
  have hcomma : ¬IsLetter ',' := by decide
  have hparts : (fun part => read (String.ofList part)) ∘ List.map Char.toLower =
      lowerReading ∘ fun part => read (String.ofList part) := by
    ext part : 1
    simp only [Function.comp_apply, ofList_map_toLower, read_toLower]
  simp only [readAll, toList_toLower, trimChars_map_toLower, List.isEmpty_map,
    splitOn_map_toLower hcomma, List.map_map, hparts]
  split
  · rfl
  · rw [List.map_map]

theorem accepts_lowered (c : Condition) (value : Value) :
    c.lowered.accepts value = c.accepts value := by
  obtain ⟨column, op, literal⟩ := c
  cases literal with
  | integer n | real x => rfl
  | string pattern =>
    cases value with
    | integer n | real x => rfl
    | string field =>
      cases op with
      | contains => exact containsIgnoringCase_toLower field pattern
      | eq => exact foldEq_toLower field pattern
      | ne => exact congrArg (!·) (foldEq_toLower field pattern)
      | gt | gte | lt | lte => rfl

/-- The segments of an expression, each with the reason why it is no condition, if it is none. -/
def skips (expression : String) : List (Option Fault) :=
  (readAll expression).map fun reading => match reading with
    | .ok _ => none
    | .error f => some f

theorem skips_toLower (expression : String) :
    skips expression.toLower = (skips expression).map (Option.map Fault.lowered) := by
  rw [skips, readAll_toLower, skips, List.map_map, List.map_map]
  apply List.map_congr_left
  intro reading _
  cases reading <;> rfl

end Condition

namespace Query

theorem isMet_toLower (expression : String) (game : Game) :
    (ofExpression expression.toLower).isMet game = (ofExpression expression).isMet game := by
  have hc : (ofExpression expression.toLower).conditions =
      (ofExpression expression).conditions.map Condition.lowered := by
    simp only [ofExpression, Condition.readAll_toLower, List.filterMap_map, List.map_filterMap]
    apply List.filterMap_congr
    intro reading _
    cases reading <;> rfl
  have hm : (fun c : Condition => c.isMet game) ∘ Condition.lowered = fun c => c.isMet game := by
    ext c
    exact c.accepts_lowered (c.column.value game)
  rw [isMet, hc, List.all_map, hm]
  rfl

theorem run_toLower (expression : String) (order : SortOrder) (rows : List Entry) :
    { ofExpression expression.toLower with order }.run rows =
      { ofExpression expression with order }.run rows := by
  have hn : { ofExpression expression.toLower with order }.narrow rows =
      { ofExpression expression with order }.narrow rows := by
    rw [narrow_eq_filter, narrow_eq_filter]
    apply List.filter_congr
    intro e _
    exact isMet_toLower expression e.game
  exact congrArg order.sort hn

end Query
end GameShelf
