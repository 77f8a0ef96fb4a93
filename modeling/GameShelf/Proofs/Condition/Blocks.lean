import GameShelf.Proofs.Condition.Complement
import GameShelf.Proofs.Sorting.Groups

namespace GameShelf

section Blocks

variable {α : Type} {p : α → Bool} {r : α → α → Prop}

/-- A list in three parts, of which the one in the middle has all the elements with a property. -/
structure IsBlock (p : α → Bool) (before block after l : List α) : Prop where
  eq_append : l = before ++ block ++ after
  within : ∀ a ∈ block, p a = true
  outside : ∀ a ∈ before ++ after, p a = false

theorem IsBlock.take {block after l : List α} (h : IsBlock p [] block after l) {a : α}
    (ha : p a = true) : IsBlock p [] (a :: block) after (a :: l) := by
  refine ⟨by rw [h.eq_append]; rfl, fun b hb => ?_, h.outside⟩
  rcases List.mem_cons.mp hb with rfl | hb
  · exact ha
  · exact h.within b hb

end Blocks

namespace Operator

end Operator

namespace Value

/-- How a field compares with a literal in conditions: reals as numbers, so that a NaN compares with
nothing and the zeros are alike. -/
def compare? : Value → Value → Option Ordering
  | .string field, .string literal => some (foldCompare field literal)
  | .integer field, .integer literal => some (Ord.compare field literal)
  | .real field, .real literal => field.compare? literal
  | _, _ => none

end Value

namespace Binary64

end Binary64

namespace Condition

variable {c : Condition}

end Condition
end GameShelf
