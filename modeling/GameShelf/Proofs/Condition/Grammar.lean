import GameShelf.Proofs.Condition.Slices
import GameShelf.Proofs.Text.LetterCase
import GameShelf.Proofs.Text.Trim

namespace GameShelf

def startsOperator (c : Char) : Bool := c = '~' || c = '=' || c = '!' || c = '>' || c = '<'

theorem toNat_of_startsOperator {c : Char} (h : startsOperator c = true) :
    c.toNat = 33 ∨ 60 ≤ c.toNat ∧ c.toNat ≤ 62 ∨ c.toNat = 126 := by
  simp only [startsOperator, Bool.or_eq_true, decide_eq_true_eq] at h
  rcases h with (((rfl | rfl) | rfl) | rfl) | rfl <;> decide

theorem not_startsOperator_of_isBlank {c : Char} (h : isBlank c = true) :
    startsOperator c = false := by
  refine eq_false_of_ne_true fun hs => ?_
  have hn := toNat_of_startsOperator hs
  rw [not_isBlank_of_visible (by omega)] at h
  cases h

theorem plain_of_letter {c : Char}
    (h : 65 ≤ c.toNat ∧ c.toNat ≤ 90 ∨ 97 ≤ c.toNat ∧ c.toNat ≤ 122) :
    isBlank c = false ∧ startsOperator c = false := by
  refine ⟨not_isBlank_of_visible (by omega), eq_false_of_ne_true fun hs => ?_⟩
  have hn := toNat_of_startsOperator hs
  omega

namespace Operator

theorem token_ne_nil (op : Operator) : op.token ≠ [] := by
  cases op <;> decide

theorem not_isBlank_of_mem_token {op : Operator} {c : Char} (h : c ∈ op.token) :
    isBlank c = false := by
  have hall : op.token.all (!isBlank ·) = true := by cases op <;> decide
  simpa using List.all_eq_true.mp hall c h

theorem exists_startsOperator_mem_token (op : Operator) :
    ∃ c ∈ op.token, startsOperator c = true := by
  have hany : op.token.any startsOperator = true := by cases op <;> decide
  exact List.any_eq_true.mp hany

theorem atStart?_of_not_startsOperator {c : Char} (h : startsOperator c = false)
    (cs : List Char) : atStart? (c :: cs) = none := by
  simp only [startsOperator, Bool.or_eq_false_iff, decide_eq_false_iff_not] at h
  obtain ⟨⟨⟨⟨h₁, h₂⟩, h₃⟩, h₄⟩, h₅⟩ := h
  simp [atStart?, recognitionOrder, token, List.isPrefixOf, Ne.symm h₁, Ne.symm h₂, Ne.symm h₃,
    Ne.symm h₄, Ne.symm h₅]

/-- Only `>` and `<` can be the start of a longer token, when `=` follows. -/
theorem atStart?_token_append (op : Operator) {rest : List Char}
    (h : op = .gt ∨ op = .lt → rest.head? ≠ some '=') : atStart? (op.token ++ rest) = some op := by
  cases op with
  | gt | lt =>
    cases rest with
    | nil => rfl
    | cons c cs =>
      have hc : '=' ≠ c := by simpa [eq_comm] using h (by simp)
      simp [atStart?, recognitionOrder, token, List.isPrefixOf, hc]
  | _ => simp [atStart?, recognitionOrder, token, List.isPrefixOf]

theorem split?_append {before rest : List Char} {op : Operator}
    (hb : ∀ c ∈ before, startsOperator c = false)
    (h : op = .gt ∨ op = .lt → rest.head? ≠ some '=') :
    split? (before ++ op.token ++ rest) = some (before, op, rest) := by
  induction before with
  | nil =>
    obtain ⟨c, cs, hc⟩ := List.exists_cons_of_ne_nil op.token_ne_nil
    have ha := atStart?_token_append op h
    rw [hc, List.cons_append] at ha
    rw [List.nil_append, hc, List.cons_append, split?, ha]
    simp [hc]
  | cons c before ih =>
    rw [List.cons_append, List.cons_append, split?,
      atStart?_of_not_startsOperator (hb c (by simp)),
      ih fun x hx => hb x (List.mem_cons_of_mem c hx)]
    rfl

end Operator

namespace Column

theorem eq_of_tokens {a b : Column} {s t : String} (hs : s ∈ a.tokens) (ht : t ∈ b.tokens)
    (h : asciiEq s t = true) : a = b := by
  have hall : ∀ a ∈ all, ∀ b ∈ all, ∀ s ∈ a.tokens, ∀ t ∈ b.tokens,
      asciiEq s t = true → a = b := by
    decide
  exact hall a a.mem_all b b.mem_all s hs t ht h

theorem ofText?_eq_some_iff {text : String} {column : Column} :
    ofText? text = some column ↔ ∃ token ∈ column.tokens, asciiEq token (trim text) = true := by
  have hsound : ∀ found, ofText? text = some found →
      ∃ token ∈ found.tokens, asciiEq token (trim text) = true := by
    intro found h
    simpa using List.find?_some h
  refine ⟨hsound column, ?_⟩
  rintro ⟨token, hm, he⟩
  have hs : (ofText? text).isSome = true := by
    rw [ofText?, List.find?_isSome]
    exact ⟨column, column.mem_all, List.any_eq_true.mpr ⟨token, hm, he⟩⟩
  obtain ⟨found, hf⟩ := Option.isSome_iff_exists.mp hs
  obtain ⟨token', hm', he'⟩ := hsound found hf
  have : asciiEq token' token = true := by
    simp only [asciiEq, beq_iff_eq] at he he' ⊢
    rw [he', he]
  rw [hf, eq_of_tokens hm' hm this]

theorem plain_of_token {column : Column} {token : String} {u : List Char}
    (hm : token ∈ column.tokens) (h : asciiEq token (String.ofList u) = true) :
    u ≠ [] ∧ ∀ c ∈ u, isBlank c = false ∧ startsOperator c = false := by
  have hall : ∀ column ∈ all, ∀ token ∈ column.tokens, token.toList ≠ [] ∧
      (token.toList.map Char.toLower).all (fun c => 97 ≤ c.toNat && c.toNat ≤ 122) = true := by
    decide
  obtain ⟨hne, hl⟩ := hall column column.mem_all token hm
  have he : token.toList.map Char.toLower = u.map Char.toLower := by simpa [asciiEq] using h
  rw [he] at hl
  refine ⟨?_, fun c hc => ?_⟩
  · rintro rfl
    exact hne (by simpa using he)
  · have hc' := List.all_eq_true.mp hl c.toLower (List.mem_map_of_mem hc)
    exact plain_of_letter (letter_of_toLower (by simpa using hc'))

end Column

theorem Value.read?_of_starts_eq {kind : Kind} (h : kind ≠ .string) (cs : List Char) :
    Value.read? kind (String.ofList ('=' :: cs)) = none := by
  cases kind with
  | string => exact absurd rfl h
  | excluded => rfl
  | integer => simp [Value.read?, readInteger, readDigits, Radix.digit?, Except.map,
      Except.toOption]
  | real =>
    have hs : Binary64.special? ('=' :: cs) = none := by
      have hne : ∀ s : String, s.toList.head? ≠ some '=' →
          String.ofList (('=' :: cs).map Char.toLower) ≠ s := by
        rintro s hs rfl
        simp at hs
      unfold Binary64.special?
      split
      · next h => exact absurd h (hne _ (by decide))
      · next h => exact absurd h (hne _ (by decide))
      · next h => exact absurd h (hne _ (by decide))
      · rfl
    have hu : Decimal.readUnsigned? false ('=' :: cs) = none := by
      simp [Decimal.readUnsigned?, Decimal.splitFraction]
    simp [Value.read?, Binary64.read?, splitSign, hu, hs]

namespace Condition

theorem ofParts_eq_ok_iff {columnText literalText : String} {op : Operator} {c : Condition} :
    ofParts columnText op literalText = .ok c ↔
      c.operator = op ∧ Column.ofText? columnText = some c.column ∧ c.column.kind ≠ .excluded ∧
        op.appliesTo c.column.kind = true ∧
        Value.read? c.column.kind literalText = some c.literal := by
  obtain ⟨column, operator, literal⟩ := c
  unfold ofParts
  cases hc : Column.ofText? columnText with
  | none => simp
  | some found =>
    by_cases hk : found.kind = .excluded
    · simp only [hk, if_true, reduceCtorEq, Option.some.injEq, false_iff]
      rintro ⟨-, rfl, hne, -⟩
      exact hne hk
    · by_cases ha : op.appliesTo found.kind = true
      · cases hv : Value.read? found.kind literalText with
        | none =>
          simp only [hk, ha, hv, Bool.not_true, Bool.false_eq_true, if_false, reduceCtorEq,
            Option.some.injEq, false_iff]
          rintro ⟨-, rfl, -, -, hr⟩
          simp [hv] at hr
        | some value =>
          simp only [hk, ha, hv, Bool.not_true, Bool.false_eq_true, if_false, Except.ok.injEq,
            Condition.mk.injEq, Option.some.injEq]
          constructor
          · rintro ⟨rfl, rfl, rfl⟩
            exact ⟨rfl, rfl, hk, ha, hv⟩
          · rintro ⟨rfl, rfl, -, -, hr⟩
            refine ⟨rfl, rfl, ?_⟩
            simpa [hv] using hr
      · simp only [hk, ha, Bool.not_false, if_true, if_false, reduceCtorEq, Option.some.injEq,
          false_iff]
        rintro ⟨-, rfl, -, hap, -⟩
        exact ha hap

theorem read_eq_ok_iff {text : String} {c : Condition} :
    read text = .ok c ↔
      ∃ before after, Operator.split? (trimChars text.toList) = some (before, c.operator, after) ∧
        ¬c.operator.token <:+: after ∧ trimChars before ≠ [] ∧ trimChars after ≠ [] ∧
        ofParts (String.ofList (trimChars before)) c.operator (String.ofList (trimChars after)) =
          .ok c := by
  unfold read
  generalize trimChars text.toList = cs
  cases hs : Operator.split? cs with
  | none =>
    cases cs <;> simp [hs]
  | some parts =>
    obtain ⟨before, op, after⟩ := parts
    have hne : cs.isEmpty = false := by
      cases cs with
      | nil => simp [Operator.split?] at hs
      | cons x cs => rfl
    have hm : (occursIn op.token after || (trimChars before).isEmpty ||
        (trimChars after).isEmpty) = true ↔
        op.token <:+: after ∨ trimChars before = [] ∨ trimChars after = [] := by
      simp [occursIn_iff, or_assoc]
    simp only [hs, hne, Bool.false_eq_true, if_false, hm, Option.some.injEq, Prod.mk.injEq]
    split
    · next hbad =>
      simp only [reduceCtorEq, false_iff]
      rintro ⟨_, _, ⟨rfl, rfl, rfl⟩, ho, hb, ha, -⟩
      rcases hbad with h | h | h
      · exact ho h
      · exact hb h
      · exact ha h
    · next hgood =>
      push Not at hgood
      obtain ⟨ho, hb, ha⟩ := hgood
      constructor
      · intro h
        obtain rfl := (ofParts_eq_ok_iff.mp h).1
        exact ⟨before, after, ⟨rfl, rfl, rfl⟩, ho, hb, ha, h⟩
      · rintro ⟨_, _, ⟨rfl, rfl, rfl⟩, -, -, -, h⟩
        exact h

/-- A way to write a condition: its column, operator and literal with blanks in every gap. -/
structure Spelling (c : Condition) where
  lead : List Char
  column : List Char
  left : List Char
  right : List Char
  literal : List Char
  trail : List Char
  isBlanks_lead : IsBlanks lead
  isBlanks_left : IsBlanks left
  isBlanks_right : IsBlanks right
  isBlanks_trail : IsBlanks trail
  isToken : ∃ token ∈ c.column.tokens, asciiEq token (String.ofList column) = true
  kind_ne : c.column.kind ≠ .excluded
  appliesTo : c.operator.appliesTo c.column.kind = true
  literal_ne_nil : literal ≠ []
  noOuterBlank_literal : NoOuterBlank literal
  not_token_infix : ¬c.operator.token <:+: literal
  read_literal : Value.read? c.column.kind (String.ofList literal) = some c.literal

namespace Spelling

variable {c : Condition}

def text (s : Spelling c) : List Char :=
  s.lead ++ s.column ++ s.left ++ c.operator.token ++ s.right ++ s.literal ++ s.trail

theorem plain_column (s : Spelling c) :
    s.column ≠ [] ∧ ∀ x ∈ s.column, isBlank x = false ∧ startsOperator x = false := by
  obtain ⟨token, hm, he⟩ := s.isToken
  exact Column.plain_of_token hm he

theorem noOuterBlank_column (s : Spelling c) : NoOuterBlank s.column :=
  .of_forall fun x hx => (s.plain_column.2 x hx).1

theorem trimChars_text (s : Spelling c) :
    trimChars s.text = s.column ++ s.left ++ c.operator.token ++ (s.right ++ s.literal) := by
  have hb := s.noOuterBlank_column.append s.noOuterBlank_literal s.plain_column.1 s.literal_ne_nil
    (s.left ++ c.operator.token ++ s.right)
  have ht : s.text = s.lead ++ (s.column ++ (s.left ++ c.operator.token ++ s.right) ++ s.literal) ++
      s.trail := by
    simp [text]
  rw [ht, trimChars_append s.isBlanks_lead hb s.isBlanks_trail]
  simp

/-- Where a literal follows `>` or `<`, it is a number and does not make the operator longer. -/
theorem head?_ne (s : Spelling c) (h : c.operator = .gt ∨ c.operator = .lt) :
    (s.right ++ s.literal).head? ≠ some '=' := by
  intro he
  obtain ⟨cs, hcs⟩ := List.head?_eq_some_iff.mp he
  cases hr : s.right with
  | nil =>
    rw [hr, List.nil_append] at hcs
    have hk : c.column.kind ≠ .string := by
      intro hk
      have ha := s.appliesTo
      rcases h with h | h <;> simp [h, hk, Operator.appliesTo, Operator.onStrings] at ha
    have hl := s.read_literal
    rw [hcs, Value.read?_of_starts_eq hk] at hl
    cases hl
  | cons x w =>
    rw [hr, List.cons_append] at hcs
    obtain ⟨rfl, -⟩ := List.cons.inj hcs
    have hb := s.isBlanks_right '=' (by simp [hr])
    revert hb
    decide

theorem split?_text (s : Spelling c) :
    Operator.split? (trimChars s.text) =
      some (s.column ++ s.left, c.operator, s.right ++ s.literal) := by
  rw [trimChars_text]
  refine Operator.split?_append (fun x hx => ?_) s.head?_ne
  rcases List.mem_append.mp hx with hx | hx
  · exact (s.plain_column.2 x hx).2
  · exact not_startsOperator_of_isBlank (s.isBlanks_left x hx)

end Spelling

theorem read_of_spelling {text : String} {c : Condition} (s : Spelling c)
    (h : text.toList = s.text) : read text = .ok c := by
  have hb : trimChars (s.column ++ s.left) = s.column := by
    simpa using trimChars_append (w := []) (by simp [IsBlanks]) s.noOuterBlank_column
      s.isBlanks_left
  have ha : trimChars (s.right ++ s.literal) = s.literal := by
    simpa using trimChars_append (v := []) s.isBlanks_right s.noOuterBlank_literal
      (by simp [IsBlanks])
  have hi : ¬c.operator.token <:+: s.right ++ s.literal := fun hi =>
    s.not_token_infix (infix_of_infix_append s.isBlanks_right c.operator.token_ne_nil
      (fun _ => Operator.not_isBlank_of_mem_token) hi)
  have hc : Column.ofText? (String.ofList s.column) = some c.column := by
    rw [Column.ofText?_eq_some_iff]
    simpa [trim, trimChars_eq_self s.noOuterBlank_column] using s.isToken
  rw [read_eq_ok_iff]
  refine ⟨s.column ++ s.left, s.right ++ s.literal, ?_, hi, ?_, ?_, ?_⟩
  · rw [h, s.split?_text]
  · rw [hb]
    exact s.plain_column.1
  · rw [ha]
    exact s.literal_ne_nil
  · rw [hb, ha, ofParts_eq_ok_iff]
    exact ⟨rfl, hc, s.kind_ne, s.appliesTo, s.read_literal⟩

theorem exists_spelling_of_read {text : String} {c : Condition} (h : read text = .ok c) :
    ∃ s : Spelling c, text.toList = s.text := by
  obtain ⟨before, after, hs, hi, hb, ha, hp⟩ := read_eq_ok_iff.mp h
  obtain ⟨-, hc, hk, hap, hr⟩ := ofParts_eq_ok_iff.mp hp
  -- the blanks around the text, around its column and around its literal
  obtain ⟨w₁, w₆, hw₁, hw₆, ht⟩ := exists_eq_append_trimChars text.toList
  obtain ⟨w₂, w₃, hw₂, hw₃, hbefore⟩ := exists_eq_append_trimChars before
  obtain ⟨w₄, w₅, hw₄, hw₅, hafter⟩ := exists_eq_append_trimChars after
  have hcolumn := noOuterBlank_trimChars before
  have htoken := Column.ofText?_eq_some_iff.mp hc
  rw [trim, String.toList_ofList, trimChars_eq_self hcolumn] at htoken
  refine ⟨⟨w₁ ++ w₂, trimChars before, w₃, w₄, trimChars after, w₅ ++ w₆, hw₁.append hw₂, hw₃, hw₄,
    hw₅.append hw₆, htoken, hk, hap, ha, noOuterBlank_trimChars after, ?_, hr⟩, ?_⟩
  · rw [hafter] at hi
    exact fun h => hi (h.trans (List.infix_append w₄ (trimChars after) w₅))
  · rw [ht, Operator.eq_append_of_split? hs, Spelling.text]
    conv_lhs => rw [hbefore, hafter]
    simp

/-- A condition is read from exactly the texts that spell it, every other text has a fault, and no
cut that is made on the way falls outside the text or inside a character. -/
theorem read_iff_spelling (text : String) :
    (∀ c, read text = .ok c ↔ ∃ s : Spelling c, text.toList = s.text) ∧
      ((∃ fault, read text = .error fault) ↔ ¬∃ c, ∃ s : Spelling c, text.toList = s.text) ∧
      readSliced? text = some (read text) := by
  have hread : ∀ c, read text = .ok c ↔ ∃ s : Spelling c, text.toList = s.text :=
    fun c => ⟨exists_spelling_of_read, fun ⟨s, h⟩ => read_of_spelling s h⟩
  refine ⟨hread, ?_, readSliced?_eq text⟩
  simp only [← hread]
  cases read text with
  | error fault => simp
  | ok c => simp

example : read " Year>= 1995 " = .ok ⟨.year, .gte, .integer 1995⟩ := by decide

end Condition
end GameShelf
