import GameShelf.Condition

namespace GameShelf

def sliceFrom? (s : String) (offset : Nat) : Option String :=
  if h : String.Pos.Raw.IsValid s ⟨offset⟩ then some (s.sliceFrom ⟨⟨offset⟩, h⟩).copy else none

def sliceTo? (s : String) (offset : Nat) : Option String :=
  if h : String.Pos.Raw.IsValid s ⟨offset⟩ then some (s.sliceTo ⟨⟨offset⟩, h⟩).copy else none

theorem sliceFrom?_append (s t : String) : sliceFrom? (s ++ t) s.utf8ByteSize = some t := by
  have h : String.Pos.Raw.IsValid (s ++ t) ⟨s.utf8ByteSize⟩ :=
    String.Pos.Raw.isValid_iff_exists_append.mpr ⟨s, t, rfl, rfl⟩
  have hs : (⟨⟨s.utf8ByteSize⟩, h⟩ : (s ++ t).Pos).Splits s t := ⟨rfl, rfl⟩
  rw [sliceFrom?, dif_pos h, hs.copy_sliceFrom_eq]

theorem sliceTo?_append (s t : String) : sliceTo? (s ++ t) s.utf8ByteSize = some s := by
  have h : String.Pos.Raw.IsValid (s ++ t) ⟨s.utf8ByteSize⟩ :=
    String.Pos.Raw.isValid_iff_exists_append.mpr ⟨s, t, rfl, rfl⟩
  have hs : (⟨⟨s.utf8ByteSize⟩, h⟩ : (s ++ t).Pos).Splits s t := ⟨rfl, rfl⟩
  rw [sliceTo?, dif_pos h, hs.copy_sliceTo_eq]

namespace Operator

/-- Looks for an operator at the offset of each character in turn; `cs` are the characters from
`offset` on. -/
def findSliced? (s : String) : Nat → List Char → Option (Option (Nat × Operator))
  | _, [] => some none
  | offset, c :: cs => do
    let rest ← sliceFrom? s offset
    match atStart? rest.toList with
    | some op => return some (offset, op)
    | none => findSliced? s (offset + c.utf8Size) cs

theorem findSliced?_append (before cs : List Char) :
    findSliced? (String.ofList (before ++ cs)) (String.ofList before).utf8ByteSize cs =
      some ((split? cs).map fun (b, op, _) =>
        ((String.ofList (before ++ b)).utf8ByteSize, op)) := by
  induction cs generalizing before with
  | nil => rfl
  | cons c cs ih =>
    have hs := sliceFrom?_append (String.ofList before) (String.ofList (c :: cs))
    rw [← String.ofList_append] at hs
    unfold findSliced? split?
    rw [hs, Option.bind_eq_bind, Option.bind_some, String.toList_ofList]
    cases ha : atStart? (c :: cs) with
    | some op => simp
    | none =>
      have hsize : (String.ofList (before ++ [c])).utf8ByteSize =
          (String.ofList before).utf8ByteSize + c.utf8Size := by
        simp [String.ofList_append]
      have hc : before ++ c :: cs = before ++ [c] ++ cs := by simp
      simp only
      rw [hc, ← hsize, ih (before ++ [c])]
      simp [Option.map_map, Function.comp_def]

theorem findSliced?_eq (s : String) : findSliced? s 0 s.toList = some (find? s) := by
  have h := findSliced?_append [] s.toList
  simpa [find?] using h

end Operator

namespace Condition

/-- `read`, with every part of the text cut out at byte offsets. -/
def readSliced? (text : String) : Option (Except Fault Condition) := do
  let segment := trim text
  if segment.isEmpty then return .error .empty
  match ← Operator.findSliced? segment 0 segment.toList with
  | none => return .error .noOperator
  | some (offset, op) =>
    let columnText := trim (← sliceTo? segment offset)
    let rest ← sliceFrom? segment (offset + (String.ofList op.token).utf8ByteSize)
    if occursIn op.token rest.toList then return .error .malformedParts
    let literalText := trim rest
    if columnText.isEmpty || literalText.isEmpty then return .error .malformedParts
    return ofParts columnText op literalText

theorem readSliced?_eq (text : String) : readSliced? text = some (read text) := by
  have ht : trim text = String.ofList (trimChars text.toList) := rfl
  unfold readSliced? read
  rw [ht]
  generalize trimChars text.toList = cs
  have hf := Operator.findSliced?_eq (String.ofList cs)
  rw [Operator.find?, String.toList_ofList] at hf
  simp only [isEmpty_ofList, String.toList_ofList, hf, Option.bind_eq_bind, Option.bind_some]
  by_cases he : cs.isEmpty = true
  · simp [he]
  · cases hs : Operator.split? cs with
    | none => simp [he]
    | some parts =>
      obtain ⟨before, op, after⟩ := parts
      have hp := Operator.eq_append_of_split? hs
      have hto := sliceTo?_append (String.ofList before) (String.ofList (op.token ++ after))
      have hfrom := sliceFrom?_append (String.ofList (before ++ op.token)) (String.ofList after)
      rw [← String.ofList_append, ← List.append_assoc, ← hp] at hto
      rw [← String.ofList_append, ← hp, String.ofList_append, String.utf8ByteSize_append] at hfrom
      simp only [he, Option.map_some, hto, hfrom, Option.bind_some, trim, String.toList_ofList,
        isEmpty_ofList, Bool.false_eq_true, if_false, Option.pure_def]
      by_cases ho : occursIn op.token after = true
      · simp [ho]
      · have ho' : occursIn op.token after = false := eq_false_of_ne_true ho
        simp only [ho', Bool.false_eq_true, if_false, Bool.false_or]
        split <;> rfl

end Condition
end GameShelf
