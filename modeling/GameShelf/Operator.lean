import GameShelf.Text.Fold
import GameShelf.Value

namespace GameShelf

inductive Operator where
  | contains
  | eq
  | ne
  | gt
  | gte
  | lt
  | lte
  deriving DecidableEq

namespace Operator

def name : Operator → String
  | .contains => "contains"
  | .eq => "eq"
  | .ne => "ne"
  | .gt => "gt"
  | .gte => "gte"
  | .lt => "lt"
  | .lte => "lte"

def token : Operator → List Char
  | .contains => ['~', '=']
  | .eq => ['=', '=']
  | .ne => ['!', '=']
  | .gt => ['>']
  | .gte => ['>', '=']
  | .lt => ['<']
  | .lte => ['<', '=']

/-- Longer tokens come first, so that `>=` is never taken for `>`. -/
def recognitionOrder : List Operator := [.gte, .lte, .eq, .ne, .contains, .gt, .lt]

def onStrings : Operator → Bool
  | .contains | .eq | .ne => true
  | .gt | .gte | .lt | .lte => false

def onNumbers : Operator → Bool
  | .contains => false
  | .eq | .ne | .gt | .gte | .lt | .lte => true

def appliesTo (op : Operator) : Kind → Bool
  | .string => op.onStrings
  | .integer | .real => op.onNumbers
  | .excluded => false

def holds : Operator → Ordering → Bool
  | .eq, o => o == .eq
  | .ne, o => o != .eq
  | .gt, o => o == .gt
  | .gte, o => o != .lt
  | .lt, o => o == .lt
  | .lte, o => o != .gt
  | .contains, _ => false

def atStart? (cs : List Char) : Option Operator :=
  recognitionOrder.find? fun op => op.token.isPrefixOf cs

/-- The text before the leftmost operator, the operator, and the text after it. -/
def split? : List Char → Option (List Char × Operator × List Char)
  | [] => none
  | c :: cs =>
    match atStart? (c :: cs) with
    | some op => some ([], op, (c :: cs).drop op.token.length)
    | none => (split? cs).map fun (before, op, after) => (c :: before, op, after)

/-- The leftmost operator of a text and how many bytes of UTF-8 stand before it. -/
def find? (text : String) : Option (Nat × Operator) :=
  (split? text.toList).map fun (before, op, _) => ((String.ofList before).utf8ByteSize, op)

theorem eq_append_of_atStart? {cs : List Char} {op : Operator} (h : atStart? cs = some op) :
    cs = op.token ++ cs.drop op.token.length := by
  have hp : op.token.isPrefixOf cs = true := by simpa using List.find?_some h
  obtain ⟨rest, rfl⟩ := List.isPrefixOf_iff_prefix.mp hp
  simp

theorem eq_append_of_split? {cs before after : List Char} {op : Operator}
    (h : split? cs = some (before, op, after)) : cs = before ++ op.token ++ after := by
  induction cs generalizing before with
  | nil => simp [split?] at h
  | cons c cs ih =>
    unfold split? at h
    split at h
    · next found ha =>
      simp only [Option.some.injEq, Prod.mk.injEq] at h
      obtain ⟨rfl, rfl, rfl⟩ := h
      simpa using eq_append_of_atStart? ha
    · simp only [Option.map_eq_some_iff, Prod.mk.injEq, Prod.exists] at h
      obtain ⟨b, _, _, hs, rfl, rfl, rfl⟩ := h
      simpa using ih hs

end Operator
end GameShelf
