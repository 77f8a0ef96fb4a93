import GameShelf.Proofs.JsonValue.Grammar

namespace GameShelf.JsonValue

inductive WellFormed : JsonValue → Prop
  | null : WellFormed .null
  | bool (b : Bool) : WellFormed (.bool b)
  | number {numeral : String} (h : IsNumber numeral.toList) : WellFormed (.number numeral)
  | string (s : String) : WellFormed (.string s)
  | array {vs : List JsonValue} (h : ∀ v ∈ vs, WellFormed v) : WellFormed (.array vs)
  | object {ms : List (String × JsonValue)} (h : ∀ m ∈ ms, WellFormed m.2) :
      WellFormed (.object ms)

section Strings

theorem codeUnit?_hexDigits {n : Nat} (h : n < 0x20) :
    codeUnit? ['0', '0', hexDigit (n / 16), hexDigit (n % 16)] = some n := by
  revert n
  decide

theorem spellsChar_escapeChar (c : Char) : SpellsChar c (escapeChar c) := by
  unfold escapeChar
  split
  · exact .letter rfl
  · exact .letter rfl
  · exact .letter rfl
  · exact .letter rfl
  · exact .letter rfl
  · exact .letter rfl
  · exact .letter rfl
  · next hq hb _ _ _ _ _ =>
    split
    · next hc =>
      have hs := SpellsChar.unit (codeUnit?_hexDigits hc) (.inl (Nat.lt_trans hc (by decide)))
      rwa [Char.ofNat_toNat] at hs
    · next hc => exact .itself (Nat.le_of_not_lt hc) hq hb

theorem spellsChars_escaped (s : List Char) : SpellsChars s (s.flatMap escapeChar) := by
  induction s with
  | nil => exact .nil
  | cons c s ih =>
    rw [List.flatMap_cons]
    exact .cons (spellsChar_escapeChar c) ih

theorem spellsString_quote (s : String) : SpellsString s (quote s) :=
  ⟨_, spellsChars_escaped s.toList, rfl⟩

end Strings

theorem isSpacing_newLine (level : Nat) : IsSpacing (newLine level) := by
  intro c hc
  rcases List.mem_cons.mp hc with rfl | hc
  · decide
  · rw [List.eq_of_mem_replicate hc]
    decide

theorem isSpacing_nil : IsSpacing [] := fun _ hc => absurd hc List.not_mem_nil

theorem isSpacing_space : IsSpacing [' '] := by
  intro c hc
  rw [List.mem_singleton.mp hc]
  decide

section Items

variable {level : Nat} {after : List Char} (ha : IsSpacing after)
include ha

theorem spells_elements {v : JsonValue} {vs : List JsonValue}
    (h : ∀ w ∈ v :: vs, Spells (.value w) (w.print level)) {before : List Char}
    (hb : IsSpacing before) :
    Spells (.elements (v :: vs))
      (before ++ (v.print level ++ (printItems level vs ++ after))) := by
  have hv := h v List.mem_cons_self
  induction vs generalizing v before with
  | nil =>
    rw [printItems, List.nil_append]
    exact .lastElement (.element hb hv ha)
  | cons w vs ih =>
    have hrest := ih (fun u hu => h u (List.mem_cons_of_mem v hu)) (isSpacing_newLine level)
      (h w (List.mem_cons_of_mem v List.mem_cons_self))
    have hfirst := Spells.element hb hv isSpacing_nil
    have hs := Spells.moreElements hfirst hrest
    simpa [printItems] using hs

theorem spells_members {m : String × JsonValue} {ms : List (String × JsonValue)}
    (h : ∀ n ∈ m :: ms, Spells (.value n.2) (n.2.print level)) {before : List Char}
    (hb : IsSpacing before) :
    Spells (.members (m :: ms))
      (before ++ (quote m.1 ++ (':' :: ' ' :: (m.2.print level ++
        (printMembers level ms ++ after))))) := by
  have hm := h m List.mem_cons_self
  induction ms generalizing m before with
  | nil =>
    rw [printMembers, List.nil_append]
    exact .lastMember (.member hb (spellsString_quote m.1) isSpacing_nil
      (.element isSpacing_space hm ha))
  | cons n ms ih =>
    have hrest := ih (fun u hu => h u (List.mem_cons_of_mem m hu)) (isSpacing_newLine level)
      (h n (List.mem_cons_of_mem m List.mem_cons_self))
    have hfirst := Spells.member hb (spellsString_quote m.1) isSpacing_nil
      (.element isSpacing_space hm isSpacing_nil)
    have hs := Spells.moreMembers hfirst hrest
    simpa [printMembers] using hs

end Items

theorem spells_print {v : JsonValue} (h : v.WellFormed) (level : Nat) :
    Spells (.value v) (v.print level) := by
  induction h generalizing level with
  | null => exact .word (by simp [words, print])
  | bool b =>
    cases b with
    | true => exact .word (by simp [words, print])
    | false => exact .word (by simp [words, print])
  | number h => exact .number h
  | string s => exact .string (spellsString_quote s)
  | @array vs _ ih =>
    cases vs with
    | nil => exact .emptyArray isSpacing_nil
    | cons v vs =>
      have hs := Spells.array (spells_elements (isSpacing_newLine level)
        (fun w hw => ih w hw (level + 1)) (isSpacing_newLine (level + 1)))
      simpa [print] using hs
  | @object ms _ ih =>
    cases ms with
    | nil => exact .emptyObject isSpacing_nil
    | cons m ms =>
      have hs := Spells.object (spells_members (isSpacing_newLine level)
        (fun n hn => ih n hn (level + 1)) (isSpacing_newLine (level + 1)))
      simpa [print] using hs

theorem denotes_render {v : JsonValue} (h : v.WellFormed) : Denotes v.render v := by
  have hs := Spells.element isSpacing_nil (spells_print h 0) isSpacing_nil
  rwa [List.nil_append, List.append_nil, ← String.toList_ofList (l := v.print 0)] at hs

end GameShelf.JsonValue
