import GameShelf.Proofs.Binary64.ReadBack
import GameShelf.Proofs.Condition.Grammar
import GameShelf.Proofs.Integer
import GameShelf.Proofs.Text.Lines

namespace GameShelf

theorem plain_of_isNumberChar {c : Char} (h : isNumberChar c = true) :
    isBlank c = false ∧ startsOperator c = false ∧ c ≠ ',' := by
  simp only [isNumberChar, Bool.or_eq_true, List.contains_iff_mem] at h
  rcases h with hdigit | hmem
  · have hn := toNat_of_isDigit hdigit
    refine ⟨not_isBlank_of_visible (by omega), eq_false_of_ne_true fun hs => ?_, ?_⟩
    · have hs := toNat_of_startsOperator hs
      omega
    · exact ne_of_isDigit hdigit (by decide)
  · have hall : ['-', '.', 'i', 'n', 'f', 'N', 'a'].all
        (fun c => !isBlank c && !startsOperator c && c != ',') = true := by
      decide
    simpa [and_assoc] using List.all_eq_true.mp hall c hmem

namespace Value

/-- The value with one NaN in the place of all. -/
def canonical : Value → Value
  | .real x => .real (if x.isNaN then .nan else x)
  | v => v

theorem kind_of_read? {kind : Kind} {s : String} {v : Value} (h : read? kind s = some v) :
    v.kind = kind := by
  cases kind with
  | string =>
    cases h
    rfl
  | integer =>
    obtain ⟨n, -, rfl⟩ := Option.map_eq_some_iff.mp h
    rfl
  | real =>
    obtain ⟨x, -, rfl⟩ := Option.map_eq_some_iff.mp h
    rfl
  | excluded => cases h

theorem read?_display (v : Value) : read? v.kind v.display = some v.canonical := by
  cases v with
  | string s => rfl
  | integer n => simp [read?, kind, display, canonical, readInteger_displayInteger, Except.toOption]
  | real x =>
    by_cases hnan : x.isNaN = true
    · simp [read?, kind, display, canonical, hnan, Binary64.display_of_isNaN, Binary64.read?_nan]
    · have hnan : x.isNaN = false := eq_false_of_ne_true hnan
      simp [read?, kind, display, canonical, hnan, Binary64.read?_display]

theorem isNumberChar_of_mem_display {v : Value} (hk : v.kind ≠ .string) {c : Char}
    (h : c ∈ v.display.toList) : isNumberChar c = true := by
  cases v with
  | string s => exact absurd rfl hk
  | integer n => exact isNumberChar_of_mem_displayInteger h
  | real x => exact Binary64.isNumberChar_of_mem_display h

theorem toList_display_ne_nil {v : Value} (hk : v.kind ≠ .string) : v.display.toList ≠ [] := by
  intro hnil
  have hread := v.read?_display
  rw [String.toList_eq_nil_iff.mp hnil] at hread
  have hnone : read? v.kind "" = none := by
    cases v with
    | string s => exact absurd rfl hk
    | integer n =>
      change read? .integer "" = none
      decide
    | real x =>
      change read? .real "" = none
      decide
  rw [hnone] at hread
  cases hread

end Value

namespace Condition

def canonical (c : Condition) : Condition := { c with literal := c.literal.canonical }

namespace Spelling

variable {c : Condition}

theorem display_literal_cases (s : Spelling c) :
    c.literal.display.toList = s.literal ∨
      c.literal.display.toList ≠ [] ∧ ∀ x ∈ c.literal.display.toList, isNumberChar x = true := by
  have hkind := Value.kind_of_read? s.read_literal
  by_cases hk : c.column.kind = .string
  · have hread := s.read_literal
    rw [hk] at hread
    have hl : Value.string (String.ofList s.literal) = c.literal := Option.some.inj hread
    rw [← hl]
    exact .inl String.toList_ofList
  · have hk : c.literal.kind ≠ .string := hkind ▸ hk
    exact .inr ⟨Value.toList_display_ne_nil hk, fun _ => Value.isNumberChar_of_mem_display hk⟩

def written (s : Spelling c) : Spelling c.canonical where
  lead := []
  column := c.column.token.toList
  left := []
  right := []
  literal := c.literal.display.toList
  trail := []
  isBlanks_lead := by simp [IsBlanks]
  isBlanks_left := by simp [IsBlanks]
  isBlanks_right := by simp [IsBlanks]
  isBlanks_trail := by simp [IsBlanks]
  isToken := ⟨c.column.token, List.mem_cons_self, by
    rw [String.ofList_toList]
    exact asciiEq_refl _⟩
  kind_ne := s.kind_ne
  appliesTo := s.appliesTo
  literal_ne_nil := by
    rcases s.display_literal_cases with he | ⟨hne, -⟩
    · rw [he]
      exact s.literal_ne_nil
    · exact hne
  noOuterBlank_literal := by
    rcases s.display_literal_cases with he | ⟨-, hn⟩
    · rw [he]
      exact s.noOuterBlank_literal
    · exact .of_forall fun x hx => (plain_of_isNumberChar (hn x hx)).1
  not_token_infix := by
    rcases s.display_literal_cases with he | ⟨-, hn⟩
    · rw [he]
      exact s.not_token_infix
    · intro hi
      obtain ⟨x, hx, hstart⟩ := c.operator.exists_startsOperator_mem_token
      have hplain := (plain_of_isNumberChar (hn x (hi.subset hx))).2.1
      rw [hstart] at hplain
      cases hplain
  read_literal := by
    rw [String.ofList_toList]
    have hread := c.literal.read?_display
    rwa [Value.kind_of_read? s.read_literal] at hread

theorem toList_display (s : Spelling c) : c.display.toList = s.written.text := by
  simp [display, text, written, canonical]

end Spelling

theorem read_display_of_read {text : String} {c : Condition} (h : read text = .ok c) :
    read c.display = .ok c.canonical := by
  obtain ⟨s, -⟩ := exists_spelling_of_read h
  exact read_of_spelling s.written s.toList_display

/-- What may stand between two commas of an expression: trimming changes nothing at its ends. -/
structure IsPart (cs : List Char) : Prop where
  ne_nil : cs ≠ []
  noOuterBlank : NoOuterBlank cs
  comma_notMem : ',' ∉ cs

theorem isPart_display {text : String} {c : Condition} (h : read text = .ok c)
    (hcomma : ',' ∉ text.toList) : IsPart c.display.toList := by
  obtain ⟨s, hs⟩ := exists_spelling_of_read h
  have hcolumn : ',' ∉ c.column.token.toList := by
    cases c.column <;> decide
  have hoperator : ',' ∉ c.operator.token := by
    cases c.operator <;> decide
  have hliteral : ',' ∉ c.literal.display.toList := by
    rcases s.display_literal_cases with he | ⟨-, hn⟩
    · rw [he]
      intro hmem
      rw [hs] at hcomma
      exact hcomma (by simp [Spelling.text, hmem])
    · exact fun hmem => (plain_of_isNumberChar (hn ',' hmem)).2.2 rfl
  have hd : c.display.toList =
      s.written.column ++ c.operator.token ++ s.written.literal := by
    simp [display, Spelling.written]
  refine ⟨?_, ?_, ?_⟩
  · simp [hd, s.written.literal_ne_nil]
  · rw [hd]
    exact s.written.noOuterBlank_column.append s.written.noOuterBlank_literal
      s.written.plain_column.1 s.written.literal_ne_nil c.operator.token
  · rw [hd]
    simp only [List.mem_append, not_or]
    exact ⟨⟨hcolumn, hoperator⟩, hliteral⟩

theorem readAll_intercalate {texts : List String} (h : ∀ t ∈ texts, IsPart t.toList) :
    readAll (",".intercalate texts) = texts.map read := by
  by_cases hnil : texts = []
  · rw [hnil]
    rfl
  · have hparts : texts.map String.toList ≠ [] := by simpa using hnil
    have hpart : ∀ p ∈ texts.map String.toList, IsPart p := by simpa using h
    obtain ⟨hne, hb⟩ := noOuterBlank_intercalate [','] hparts fun p hp =>
      ⟨(hpart p hp).ne_nil, (hpart p hp).noOuterBlank⟩
    have hsplit := List.splitOn_intercalate ',' (fun p hp => (hpart p hp).comma_notMem) hparts
    have hcomma : (",").toList = [','] := rfl
    have hempty := List.isEmpty_eq_false_iff.mpr hne
    simp only [readAll, String.toList_intercalate, hcomma, trimChars_eq_self hb, hempty, hsplit,
      Bool.false_eq_true, if_false, List.map_map]
    refine List.map_congr_left fun t _ => ?_
    rw [Function.comp_apply, String.ofList_toList]

theorem exists_read_of_mem_readAll {expression : String} {r : Except Fault Condition}
    (h : r ∈ readAll expression) : ∃ part : String, ',' ∉ part.toList ∧ read part = r := by
  unfold readAll at h
  generalize trimChars expression.toList = cs at h
  simp only at h
  split at h
  · cases h
  · obtain ⟨part, hp, hr⟩ := List.mem_map.mp h
    refine ⟨String.ofList part, ?_, hr⟩
    rw [String.toList_ofList]
    exact notMem_of_mem_splitOn hp

/-- The conditions read from an expression, written one after another with commas between them, are
read again, all of them in their order. Of a NaN only that it is one is kept; every other literal
comes back bit by bit, however it was spelled. -/
theorem readAll_display_accepted :
    (∀ expression, let accepted := (readAll expression).filterMap Except.toOption
      readAll (",".intercalate (accepted.map display)) = accepted.map fun c => .ok c.canonical) ∧
    ∀ text c, read text = .ok c → read c.display = .ok c.canonical := by
  refine ⟨?_, fun _ _ => read_display_of_read⟩
  intro expression accepted
  have hread : ∀ c ∈ accepted, ∃ part : String, ',' ∉ part.toList ∧ read part = .ok c := by
    intro c hc
    obtain ⟨r, hr, hok⟩ := List.mem_filterMap.mp hc
    cases r with
    | error fault => cases hok
    | ok found =>
      obtain rfl := Option.some.inj hok
      exact exists_read_of_mem_readAll hr
  have hparts : ∀ t ∈ accepted.map display, IsPart t.toList := by
    intro t ht
    obtain ⟨c, hc, rfl⟩ := List.mem_map.mp ht
    obtain ⟨part, hcomma, hpart⟩ := hread c hc
    exact isPart_display hpart hcomma
  rw [readAll_intercalate hparts, List.map_map]
  refine List.map_congr_left fun c hc => ?_
  obtain ⟨part, -, hpart⟩ := hread c hc
  exact read_display_of_read hpart

theorem readAll_display_accepted_of_nan :
    let found : List Condition :=
      [⟨.name, .contains, .string "=x"⟩, ⟨.rating, .gt, .real ⟨0xFFF8000000000000⟩⟩,
        ⟨.year, .gte, .integer 7⟩]
    (readAll " name ~= =x , rating > -nan,, year>=+0007").filterMap Except.toOption = found ∧
      readAll "name~==x,rating>NaN,year>=7" =
        [.ok ⟨.name, .contains, .string "=x"⟩, .ok ⟨.rating, .gt, .real .nan⟩,
          .ok ⟨.year, .gte, .integer 7⟩] ∧
      read "rating > -nan" = .ok ⟨.rating, .gt, .real ⟨0xFFF8000000000000⟩⟩ ∧
      read "rating>NaN" = .ok ⟨.rating, .gt, .real .nan⟩ := by
  intro found
  have hfound : (readAll " name ~= =x , rating > -nan,, year>=+0007").filterMap Except.toOption =
      found := by decide
  have hwritten : ",".intercalate (found.map display) = "name~==x,rating>NaN,year>=7" := by decide
  have hall := readAll_display_accepted.1 " name ~= =x , rating > -nan,, year>=+0007"
  have hone : read "rating > -nan" = .ok ⟨.rating, .gt, .real ⟨0xFFF8000000000000⟩⟩ := by decide
  have hback := readAll_display_accepted.2 _ _ hone
  simp only [hfound, hwritten] at hall
  exact ⟨hfound, hall, hone, hback⟩

end Condition
end GameShelf
