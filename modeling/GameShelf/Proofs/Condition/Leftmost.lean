import GameShelf.Proofs.Condition.Grammar
import GameShelf.Proofs.Text.Utf8

namespace GameShelf

/-- Whether the bytes of the pattern stand in the text from this offset on. -/
def OccursAt (pattern : List Char) (offset : Nat) (text : String) : Prop :=
  utf8 pattern <+: (utf8 text.toList).drop offset

/-- An ASCII pattern stands among the bytes only where it stands among the characters. -/
theorem occursAt_iff {pattern : List Char} (hne : pattern ≠ [])
    (ha : ∀ c ∈ pattern, c.toNat < 128) {offset : Nat} {text : String} :
    OccursAt pattern offset text ↔
      ∃ front rest, text.toList = front ++ rest ∧ (utf8 front).length = offset ∧
        pattern <+: rest := by
  constructor
  · intro h
    obtain ⟨p, ps, rfl⟩ := List.exists_cons_of_ne_nil hne
    have hp : p.toNat < 128 := ha p List.mem_cons_self
    obtain ⟨more, hmore⟩ := h
    rw [utf8_cons, utf8EncodeChar_ascii hp] at hmore
    have hb : (UInt8.ofNat p.toNat).toNat < 128 := by
      rwa [UInt8.toNat_ofNat_of_lt' (Nat.lt_trans hp (by decide))]
    obtain ⟨front, rest, htext, hoffset, hrest⟩ := exists_append_of_drop_utf8 hmore.symm hb
    refine ⟨front, rest, htext, hoffset, prefix_of_utf8_prefix ha ⟨more, ?_⟩⟩
    rw [hrest, utf8_cons, utf8EncodeChar_ascii hp]
    rfl
  · rintro ⟨front, rest, htext, rfl, more, rfl⟩
    rw [OccursAt, htext, utf8_append, List.drop_left, utf8_append]
    exact List.prefix_append _ _

theorem isValid_of_append {text : String} {front rest : List Char}
    (h : text.toList = front ++ rest) :
    String.Pos.Raw.IsValid text ⟨(utf8 front).length⟩ := by
  refine String.Pos.Raw.isValid_iff_exists_append.mpr
    ⟨String.ofList front, String.ofList rest, ?_, ?_⟩
  · rw [← String.ofList_append, ← h, String.ofList_toList]
  · rw [length_utf8]
    rfl

namespace Operator

theorem mem_recognitionOrder (op : Operator) : op ∈ recognitionOrder := by
  cases op <;> decide

theorem toNat_of_mem_token {op : Operator} {c : Char} (h : c ∈ op.token) : c.toNat < 128 := by
  have hall : op.token.all (·.toNat < 128) = true := by cases op <;> decide
  simpa using List.all_eq_true.mp hall c h

theorem length_utf8_token (op : Operator) : (utf8 op.token).length = op.token.length := by
  cases op <;> decide

theorem token_injective {a b : Operator} (h : a.token = b.token) : a = b := by
  cases a <;> cases b <;> simp [token] at h ⊢

theorem occursAt_token_iff {op : Operator} {offset : Nat} {text : String} :
    OccursAt op.token offset text ↔
      ∃ front rest, text.toList = front ++ rest ∧ (utf8 front).length = offset ∧
        op.token <+: rest :=
  occursAt_iff op.token_ne_nil fun _ => toNat_of_mem_token

theorem infix_token_iff {op : Operator} {text : String} :
    op.token <:+: text.toList ↔ ∃ offset, OccursAt op.token offset text := by
  constructor
  · rintro ⟨front, rest, h⟩
    refine ⟨_, occursAt_token_iff.mpr ⟨front, op.token ++ rest, ?_, rfl, List.prefix_append _ _⟩⟩
    rw [← h, List.append_assoc]
  · rintro ⟨offset, h⟩
    obtain ⟨front, rest, htext, -, more, rfl⟩ := occursAt_token_iff.mp h
    exact ⟨front, more, by rw [htext, List.append_assoc]⟩

theorem atStart?_eq_none_iff {cs : List Char} :
    atStart? cs = none ↔ ∀ op : Operator, ¬op.token <+: cs := by
  simp only [atStart?, List.find?_eq_none, List.isPrefixOf_iff_prefix]
  exact ⟨fun h op => h op op.mem_recognitionOrder, fun h op _ => h op⟩

theorem length_le_of_atStart? {cs : List Char} {op other : Operator} (h : atStart? cs = some op)
    (ho : other.token <+: cs) : other.token.length ≤ op.token.length := by
  obtain ⟨-, before, after, horder, hbefore⟩ := List.find?_eq_some_iff_append.mp h
  have hdescending : recognitionOrder.Pairwise fun a b => b.token.length ≤ a.token.length := by
    decide
  rw [horder, List.pairwise_append, List.pairwise_cons] at hdescending
  have hmem := other.mem_recognitionOrder
  rw [horder, List.mem_append, List.mem_cons] at hmem
  rcases hmem with hmem | rfl | hmem
  · have hnot := hbefore other hmem
    rw [List.isPrefixOf_iff_prefix.mpr ho] at hnot
    cases hnot
  · exact Nat.le_refl _
  · exact hdescending.2.1.1 other hmem

theorem split?_eq_none_iff {cs : List Char} :
    split? cs = none ↔ ∀ op : Operator, ¬op.token <:+: cs := by
  induction cs with
  | nil =>
    refine ⟨fun _ op h => op.token_ne_nil (List.infix_nil.mp h), fun _ => rfl⟩
  | cons c cs ih =>
    simp only [List.infix_cons_iff, not_or, forall_and, ← ih, ← atStart?_eq_none_iff]
    rw [split?]
    cases atStart? (c :: cs) with
    | some op => simp
    | none => simp

theorem leftmost_of_split? {cs before after : List Char} {op : Operator}
    (h : split? cs = some (before, op, after)) :
    atStart? (op.token ++ after) = some op ∧
      ∀ (other : Operator) (front rest : List Char), cs = front ++ rest → other.token <+: rest →
        before <+: front := by
  induction cs generalizing before with
  | nil => simp [split?] at h
  | cons c cs ih =>
    unfold split? at h
    split at h
    · next found ha =>
      simp only [Option.some.injEq, Prod.mk.injEq] at h
      obtain ⟨rfl, rfl, rfl⟩ := h
      rw [← eq_append_of_atStart? ha]
      exact ⟨ha, fun _ _ _ _ _ => List.nil_prefix⟩
    · next ha =>
      simp only [Option.map_eq_some_iff, Prod.mk.injEq, Prod.exists] at h
      obtain ⟨before, _, _, hs, rfl, rfl, rfl⟩ := h
      obtain ⟨hstart, hfront⟩ := ih hs
      refine ⟨hstart, fun other front rest hcs ho => ?_⟩
      cases front with
      | nil =>
        rw [List.nil_append] at hcs
        exact absurd (hcs ▸ ho) (atStart?_eq_none_iff.mp ha other)
      | cons d front =>
        obtain ⟨rfl, htail⟩ := List.cons.inj hcs
        exact List.cons_prefix_cons.mpr ⟨rfl, hfront other front rest htail ho⟩

/-- No operator stands in the text further to the left, and none that starts there is longer. -/
structure LeftmostLongest (text : String) (offset : Nat) (op : Operator) : Prop where
  occurs : OccursAt op.token offset text
  leftmost : ∀ (other : Operator) (o : Nat), OccursAt other.token o text → offset ≤ o
  longest : ∀ other : Operator, OccursAt other.token offset text →
    other.token.length ≤ op.token.length

theorem find?_eq_none_iff {text : String} :
    find? text = none ↔ ∀ op : Operator, ¬op.token <:+: text.toList := by
  rw [find?, Option.map_eq_none_iff, split?_eq_none_iff]

theorem leftmostLongest_of_find? {text : String} {offset : Nat} {op : Operator}
    (h : find? text = some (offset, op)) : LeftmostLongest text offset op := by
  simp only [find?, Option.map_eq_some_iff, Prod.mk.injEq, Prod.exists] at h
  obtain ⟨before, _, after, hs, rfl, rfl⟩ := h
  rw [← length_utf8]
  have htext := eq_append_of_split? hs
  rw [List.append_assoc] at htext
  obtain ⟨hstart, hfront⟩ := leftmost_of_split? hs
  refine ⟨?_, fun other o ho => ?_, fun other ho => length_le_of_atStart? hstart ?_⟩
  · exact occursAt_token_iff.mpr ⟨before, _, htext, rfl, List.prefix_append _ _⟩
  · obtain ⟨front, rest, hsplit, rfl, hrest⟩ := occursAt_token_iff.mp ho
    obtain ⟨more, rfl⟩ := hfront other front rest hsplit hrest
    rw [utf8_append, List.length_append]
    exact Nat.le_add_right _ _
  · refine prefix_of_utf8_prefix (fun _ => toNat_of_mem_token) ?_
    rwa [OccursAt, htext, utf8_append, List.drop_left] at ho

theorem LeftmostLongest.unique {text : String} {a b : Nat} {op other : Operator}
    (h : LeftmostLongest text a op) (ho : LeftmostLongest text b other) : a = b ∧ op = other := by
  obtain rfl : a = b :=
    Nat.le_antisymm (h.leftmost other b ho.occurs) (ho.leftmost op a h.occurs)
  have hlength : op.token.length = other.token.length :=
    Nat.le_antisymm (ho.longest op h.occurs) (h.longest other ho.occurs)
  have hbytes : utf8 op.token <+: utf8 other.token := by
    refine List.prefix_of_prefix_length_le h.occurs ho.occurs ?_
    rw [length_utf8_token, length_utf8_token, hlength]
  have htoken := prefix_of_utf8_prefix (fun _ => toNat_of_mem_token) hbytes
  exact ⟨rfl, token_injective (htoken.eq_of_length hlength)⟩

theorem LeftmostLongest.isValid {text : String} {offset : Nat} {op : Operator}
    (h : LeftmostLongest text offset op) :
    String.Pos.Raw.IsValid text ⟨offset⟩ ∧
      String.Pos.Raw.IsValid text ⟨offset + (String.ofList op.token).utf8ByteSize⟩ := by
  obtain ⟨front, _, htext, rfl, more, rfl⟩ := occursAt_token_iff.mp h.occurs
  refine ⟨isValid_of_append htext, ?_⟩
  rw [← List.append_assoc] at htext
  have hend := isValid_of_append htext
  rwa [utf8_append, List.length_append, length_utf8 op.token] at hend

/-- What is found is the leftmost operator, the longest there, and cuts no character. -/
theorem finds_leftmost_longest (text : String) :
    (find? text = none ↔ ∀ op : Operator, ¬op.token <:+: text.toList) ∧
      (∀ offset op, find? text = some (offset, op) ↔ LeftmostLongest text offset op) ∧
      ∀ offset op, find? text = some (offset, op) →
        String.Pos.Raw.IsValid text ⟨offset⟩ ∧
          String.Pos.Raw.IsValid text ⟨offset + (String.ofList op.token).utf8ByteSize⟩ := by
  refine ⟨find?_eq_none_iff, fun offset op => ⟨leftmostLongest_of_find?, fun h => ?_⟩,
    fun offset op h => (leftmostLongest_of_find? h).isValid⟩
  cases hf : find? text with
  | none => exact absurd (infix_token_iff.mpr ⟨offset, h.occurs⟩) (find?_eq_none_iff.mp hf op)
  | some found =>
    obtain ⟨rfl, rfl⟩ := h.unique (leftmostLongest_of_find? hf)
    rfl

theorem finds_leftmost_longest_behind_lone_mark :
    find? "Größe!>=5" = some (8, .gte) ∧ LeftmostLongest "Größe!>=5" 8 .gte ∧
      String.Pos.Raw.IsValid "Größe!>=5" ⟨8⟩ ∧ String.Pos.Raw.IsValid "Größe!>=5" ⟨10⟩ := by
  have h : find? "Größe!>=5" = some (8, .gte) := by decide
  obtain ⟨-, hiff, hvalid⟩ := finds_leftmost_longest "Größe!>=5"
  exact ⟨h, (hiff 8 .gte).mp h, hvalid 8 .gte h⟩

end Operator
end GameShelf
