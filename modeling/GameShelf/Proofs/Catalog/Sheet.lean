import GameShelf.Catalog.Record
import GameShelf.Proofs.Text.Utf8

namespace GameShelf.Catalog

inductive LineEnd where
  | feed
  | carriageFeed
  deriving DecidableEq

def LineEnd.chars : LineEnd → List Char
  | .feed => ['\n']
  | .carriageFeed => ['\r', '\n']

structure Row where
  fields : List (List Char)
  lineEnd : LineEnd
  deriving DecidableEq

def doubled (c : Char) : List Char := if c = '"' then ['"', '"'] else [c]

def quoted (field : List Char) : List Char := '"' :: field.flatMap doubled ++ ['"']

def Row.text (row : Row) : List Char :=
  [','].intercalate (row.fields.map quoted) ++ row.lineEnd.chars

theorem Row.exists_text_eq {row : Row} (h : row.fields ≠ []) :
    ∃ rest, row.text = '"' :: rest := by
  obtain ⟨cs, fields, hrow⟩ := List.exists_cons_of_ne_nil h
  rw [text, hrow, List.map_cons]
  cases fields with
  | nil => exact ⟨_, rfl⟩
  | cons ds fields => exact ⟨_, rfl⟩

namespace Scan

/-- What a reader has read, wherever it is in the bytes. -/
structure Shows (s : Scan) (mode : Mode) (field : List UInt8) (fields : List (List UInt8))
    (records : List (List (List UInt8))) : Prop where
  mode_eq : s.mode = mode
  field_eq : s.field = field
  fields_eq : s.fields = fields
  records_eq : s.records.map Record.fields = records

namespace Shows

variable {s : Scan} {mode : Mode} {field : List UInt8} {fields : List (List UInt8)}
  {records : List (List (List UInt8))}

theorem step_open (hm : mode = .between ∨ mode = .fieldStart)
    (h : s.Shows mode [] fields records) :
    (s.step doubleQuote).Shows .quoted [] fields records := by
  obtain ⟨m, here, start, f, fs, rs⟩ := s
  obtain ⟨rfl, rfl, rfl, rfl⟩ := h
  rcases hm with hm | hm
  · cases hm
    exact ⟨rfl, rfl, rfl, rfl⟩
  · cases hm
    exact ⟨rfl, rfl, rfl, rfl⟩

theorem step_take {b : UInt8} (hb : b ≠ doubleQuote) (h : s.Shows .quoted field fields records) :
    (s.step b).Shows .quoted (b :: field) fields records := by
  obtain ⟨m, here, start, f, fs, rs⟩ := s
  obtain ⟨rfl, rfl, rfl, rfl⟩ := h
  have hne : (b == doubleQuote) = false := beq_false_of_ne hb
  simp only [step, hne, Bool.false_eq_true, if_false]
  exact ⟨rfl, rfl, rfl, rfl⟩

theorem step_quote (h : s.Shows .quoted field fields records) :
    (s.step doubleQuote).Shows .quote field fields records := by
  obtain ⟨m, here, start, f, fs, rs⟩ := s
  obtain ⟨rfl, rfl, rfl, rfl⟩ := h
  exact ⟨rfl, rfl, rfl, rfl⟩

theorem step_doubled (h : s.Shows .quote field fields records) :
    (s.step doubleQuote).Shows .quoted (doubleQuote :: field) fields records := by
  obtain ⟨m, here, start, f, fs, rs⟩ := s
  obtain ⟨rfl, rfl, rfl, rfl⟩ := h
  exact ⟨rfl, rfl, rfl, rfl⟩

theorem step_comma (h : s.Shows .quote field fields records) :
    (s.step comma).Shows .fieldStart [] (field.reverse :: fields) records := by
  obtain ⟨m, here, start, f, fs, rs⟩ := s
  obtain ⟨rfl, rfl, rfl, rfl⟩ := h
  exact ⟨rfl, rfl, rfl, rfl⟩

theorem step_lineEnd {b : UInt8} (hb : b = lineFeed ∨ b = carriageReturn)
    (h : s.Shows .quote field fields records) :
    (s.step b).Shows .between [] [] ((field.reverse :: fields).reverse :: records) := by
  obtain ⟨m, here, start, f, fs, rs⟩ := s
  obtain ⟨rfl, rfl, rfl, rfl⟩ := h
  rcases hb with rfl | rfl
  · exact ⟨rfl, rfl, rfl, rfl⟩
  · exact ⟨rfl, rfl, rfl, rfl⟩

/-- The feed behind a carriage return that ended the record. -/
theorem step_between (h : s.Shows .between field fields records) :
    (s.step lineFeed).Shows .between field fields records := by
  obtain ⟨m, here, start, f, fs, rs⟩ := s
  obtain ⟨rfl, rfl, rfl, rfl⟩ := h
  exact ⟨rfl, rfl, rfl, rfl⟩

theorem run_take {bytes : List UInt8} (hb : ∀ b ∈ bytes, b ≠ doubleQuote)
    (h : s.Shows .quoted field fields records) :
    (bytes.foldl step s).Shows .quoted (bytes.reverse ++ field) fields records := by
  induction bytes generalizing s field with
  | nil => exact h
  | cons b bytes ih =>
    rw [List.reverse_cons, List.append_assoc]
    exact ih (fun c hc => hb c (List.mem_cons_of_mem b hc)) (h.step_take (hb b List.mem_cons_self))

theorem run_content (cs : List Char) (h : s.Shows .quoted field fields records) :
    ((utf8 (cs.flatMap doubled)).foldl step s).Shows .quoted ((utf8 cs).reverse ++ field) fields
      records := by
  induction cs generalizing s field with
  | nil => exact h
  | cons c cs ih =>
    -- A quote takes two steps through the mode behind a quote; other characters never leave quotes.
    have hc : ((utf8 (doubled c)).foldl step s).Shows .quoted ((utf8 [c]).reverse ++ field) fields
        records := by
      by_cases hq : c = '"'
      · rw [hq]
        exact h.step_quote.step_doubled
      · rw [doubled, if_neg hq, utf8_singleton]
        refine h.run_take fun b hb he => hq ?_
        obtain ⟨-, hn⟩ := utf8EncodeChar_of_mem hb (by rw [he]; decide)
        exact Char.toNat_inj.mp (hn.trans (by rw [he]; decide))
    have hs : utf8 (c :: cs) = utf8 [c] ++ utf8 cs := utf8_append [c] cs
    rw [List.flatMap_cons, utf8_append, List.foldl_append, hs, List.reverse_append,
      List.append_assoc]
    exact ih hc

theorem run_quoted (hm : mode = .between ∨ mode = .fieldStart) (cs : List Char)
    (h : s.Shows mode [] fields records) :
    ((utf8 (quoted cs)).foldl step s).Shows .quote (utf8 cs).reverse fields records := by
  have hq : utf8 (quoted cs) = doubleQuote :: utf8 (cs.flatMap doubled) ++ [doubleQuote] := by
    rw [quoted, utf8_append]
    rfl
  have hc := (h.step_open hm).run_content cs
  rw [List.append_nil] at hc
  rw [hq, List.foldl_append, List.foldl_cons]
  exact hc.step_quote

/-- At the end of a row's last field, which has not been ended yet. -/
theorem run_fields (hm : mode = .between ∨ mode = .fieldStart) {row : List (List Char)}
    (hne : row ≠ []) (h : s.Shows mode [] fields records) :
    ∃ last before, last.reverse :: before = (row.map utf8).reverse ++ fields ∧
      ((utf8 ([','].intercalate (row.map quoted))).foldl step s).Shows .quote last before
        records := by
  induction row generalizing s mode fields with
  | nil => exact absurd rfl hne
  | cons cs row ih =>
    have hfield := h.run_quoted hm cs
    by_cases hnil : row = []
    · subst hnil
      refine ⟨(utf8 cs).reverse, fields, by simp, ?_⟩
      rw [List.map_singleton, List.intercalate_singleton]
      exact hfield
    · obtain ⟨last, before, hl, hrest⟩ := ih (.inr rfl) hnil hfield.step_comma
      refine ⟨last, before, by simpa using hl, ?_⟩
      rw [List.map_cons, List.intercalate_cons_of_ne_nil (by simpa using hnil), utf8_append,
        utf8_append, List.foldl_append, List.foldl_append]
      exact hrest

theorem run_row {row : Row} (hne : row.fields ≠ []) (h : s.Shows .between [] [] records) :
    ((utf8 row.text).foldl step s).Shows .between [] [] (row.fields.map utf8 :: records) := by
  obtain ⟨last, before, hl, hrow⟩ := h.run_fields (.inl rfl) hne
  have hfields : row.fields.map utf8 = (last.reverse :: before).reverse := by
    rw [hl]
    simp
  rw [Row.text, utf8_append, List.foldl_append, hfields]
  cases row.lineEnd with
  | feed => exact hrow.step_lineEnd (.inl rfl)
  | carriageFeed => exact (hrow.step_lineEnd (.inr rfl)).step_between

theorem run_rows {rows : List Row} (hne : ∀ row ∈ rows, row.fields ≠ [])
    (h : s.Shows .between [] [] records) :
    ((utf8 (rows.flatMap Row.text)).foldl step s).Shows .between [] []
      ((rows.map fun row => row.fields.map utf8).reverse ++ records) := by
  induction rows generalizing s records with
  | nil => exact h
  | cons row rows ih =>
    rw [List.flatMap_cons, utf8_append, List.foldl_append, List.map_cons, List.reverse_cons,
      List.append_assoc]
    exact ih (fun r hr => hne r (List.mem_cons_of_mem row hr))
      (h.run_row (hne row List.mem_cons_self))

end Shows
end Scan

theorem records_cons_quote (bytes : List UInt8) :
    records (Scan.doubleQuote :: bytes) =
      ((Scan.doubleQuote :: bytes).foldl Scan.step (.begin ⟨1, 0⟩)).finish := rfl

theorem fields_records_written {rows : List Row} (hne : ∀ row ∈ rows, row.fields ≠ []) :
    (records (utf8 (rows.flatMap Row.text))).map Record.fields =
      rows.map fun row => row.fields.map utf8 := by
  have hstart : (Scan.begin ⟨1, 0⟩).Shows .between [] [] [] := ⟨rfl, rfl, rfl, rfl⟩
  obtain ⟨hm, -, -, hr⟩ := hstart.run_rows hne
  cases rows with
  | nil => rfl
  | cons row rows =>
    obtain ⟨rest, ht⟩ := Row.exists_text_eq (hne row List.mem_cons_self)
    have hbytes : utf8 ((row :: rows).flatMap Row.text) =
        Scan.doubleQuote :: utf8 (rest ++ rows.flatMap Row.text) := by
      rw [List.flatMap_cons, ht, List.cons_append]
      rfl
    rw [hbytes] at hm hr ⊢
    rw [records_cons_quote, Scan.finish, if_pos hm, List.map_reverse, hr]
    simp

end GameShelf.Catalog
