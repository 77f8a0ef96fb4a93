import GameShelf.Proofs.Binary64.Spelling
import GameShelf.Proofs.Catalog.Names
import GameShelf.Proofs.Catalog.Sheet
import GameShelf.Proofs.Integer
import Mathlib.Data.List.Forall2
import Mathlib.Data.List.ReduceOption

namespace GameShelf

def Column.headers (column : Column) : List String := column.header :: column.headerAlias?.toList

def Padded (inner text : List Char) : Prop :=
  ∃ w v, IsBlanks w ∧ IsBlanks v ∧ text = w ++ inner ++ v

theorem Padded.refl (cs : List Char) : Padded cs cs :=
  ⟨[], [], by decide, by decide, by simp⟩

theorem Padded.trimChars_eq {inner text : List Char} (h : Padded inner text)
    (hi : NoOuterBlank inner) : trimChars text = inner := by
  obtain ⟨w, v, hw, hv, rfl⟩ := h
  exact trimChars_append hw hi hv

namespace Catalog

/-- Whether a header field stands over a column, or over one that is passed over. -/
inductive Heads : Option Column → List Char → Prop
  | column {column : Column} {name : String} {text : List Char} (hn : name ∈ column.headers)
    (ht : Padded name.toList text) : Heads (some column) text
  | other {text : List Char}
    (h : ∀ column : Column, String.ofList (trimChars text) ∉ column.headers) : Heads none text

inductive Writes : Value → String → Prop
  | string (s : String) : Writes (.string s) s
  | integer (n : Int64) : Writes (.integer n) (displayInteger n)
  | real {x : Binary64} {text : String} (h : Binary64.read? text = some x) : Writes (.real x) text

/-- Whether a field holds what its column has of a game. -/
inductive Holds (game : Game) : Option Column → List Char → Prop
  | column {column : Column} {text : String} {field : List Char}
    (hw : Writes (column.value game) text) (hf : Padded text.toList field) :
    Holds game (some column) field
  | other (field : List Char) : Holds game none field

section Fields

def isAsciiBlankChar (c : Char) : Bool := c.toNat < 128 && isAsciiBlank (UInt8.ofNat c.toNat)

theorem isAsciiBlank_of_mem {c : Char} {b : UInt8} (h : b ∈ String.utf8EncodeChar c) :
    isAsciiBlank b = isAsciiBlankChar c := by
  by_cases hc : c.toNat < 128
  · rw [utf8EncodeChar_ascii hc] at h
    rw [List.mem_singleton.mp h]
    simp [isAsciiBlankChar, hc]
  · have hb : 128 ≤ b.toNat := le_toNat_of_mem_utf8EncodeChar (Nat.le_of_not_lt hc) h
    have hne : ∀ n : UInt8, n.toNat < 128 → b ≠ n := by
      rintro n hn rfl
      omega
    simp [isAsciiBlank, isAsciiBlankChar, hc, hne]

theorem isBlank_of_isAsciiBlankChar {c : Char} (h : isAsciiBlankChar c = true) :
    isBlank c = true := by
  obtain ⟨hc, hb⟩ := Bool.and_eq_true_iff.mp h
  have hall : ∀ n < 128, isAsciiBlank (UInt8.ofNat n) = true → n = 32 ∨ 9 ≤ n ∧ n ≤ 13 := by decide
  have hn := hall c.toNat (of_decide_eq_true hc) hb
  simp only [isBlank, Bool.or_eq_true, Bool.and_eq_true, decide_eq_true_eq, beq_iff_eq]
  omega

theorem fieldText_utf8 (cs : List Char) :
    fieldText (utf8 cs) = .ok (String.ofList (trimChars cs)) := by
  have htrim : trimBy isAsciiBlank (utf8 cs) = utf8 (trimBy isAsciiBlankChar cs) :=
    trimBy_flatMap (fun _ => String.utf8EncodeChar_ne_nil) (fun _ _ => isAsciiBlank_of_mem) cs
  obtain ⟨w, v, hw, hv, hcs⟩ := exists_eq_append_trimBy isAsciiBlankChar cs
  have hblanks : trimChars (trimBy isAsciiBlankChar cs) = trimChars cs := by
    conv_rhs => rw [hcs]
    exact (trimChars_around (fun c hc => isBlank_of_isAsciiBlankChar (hw c hc))
      (fun c hc => isBlank_of_isAsciiBlankChar (hv c hc)) _).symm
  rw [fieldText, htrim, decodeUtf8_utf8, Except.map, trim, String.toList_ofList, hblanks]

theorem fieldTexts_utf8 (index : Nat) (fields : List (List Char)) :
    fieldTexts index (fields.map utf8) =
      .ok (fields.map fun cs => String.ofList (trimChars cs)) := by
  induction fields generalizing index with
  | nil => rfl
  | cons cs fields ih =>
    rw [List.map_cons, fieldTexts, fieldText_utf8, ih]
    rfl

end Fields

section Header

theorem noOuterBlank_of_mem_headers {column : Column} {name : String}
    (h : name ∈ column.headers) : NoOuterBlank name.toList := by
  have hall : ∀ name ∈ column.headers, NoOuterBlank name.toList := by
    cases column <;> decide
  exact hall name h

theorem columnOfHeader?_of_mem {column : Column} {name : String} (h : name ∈ column.headers) :
    columnOfHeader? name = some column := by
  have hall : ∀ name ∈ column.headers, columnOfHeader? name = some column := by
    cases column <;> decide
  exact hall name h

theorem columnOfHeader?_eq_none {name : String} (h : ∀ column : Column, name ∉ column.headers) :
    columnOfHeader? name = none := by
  refine List.find?_eq_none.mpr fun column _ hc => h column ?_
  rw [Bool.or_eq_true, beq_iff_eq, beq_iff_eq] at hc
  rw [Column.headers, List.mem_cons, Option.mem_toList]
  exact hc.imp_left Eq.symm

theorem columnOfHeader?_of_heads {column : Option Column} {text : List Char}
    (h : Heads column text) : columnOfHeader? (String.ofList (trimChars text)) = column := by
  cases h with
  | column hn ht =>
    rw [ht.trimChars_eq (noOuterBlank_of_mem_headers hn), String.ofList_toList]
    exact columnOfHeader?_of_mem hn
  | other h => exact columnOfHeader?_eq_none h

theorem ofHeader_eq {columns : List (Option Column)} {header : List (List Char)}
    (h : List.Forall₂ Heads columns header) :
    Layout.ofHeader (header.map utf8) = ⟨columns, header.length, false⟩ := by
  have hc : (header.map fun cs => String.ofList (trimChars cs)).map columnOfHeader? = columns := by
    induction h with
    | nil => rfl
    | cons hd _ ih => rw [List.map_cons, List.map_cons, columnOfHeader?_of_heads hd, ih]
  simp only [Layout.ofHeader, fieldTexts_utf8, hc, List.length_map]

end Header

section Rows

theorem eq_name_of_value_eq_string {column : Column} {game : Game} {s : String}
    (h : column.value game = .string s) : s = game.name := by
  cases column with
  | name => exact (Value.string.inj h).symm
  | _ => cases h

theorem noOuterBlank_of_writes {column : Column} {game : Game} {text : String}
    (hname : NoOuterBlank game.name.toList) (h : Writes (column.value game) text) :
    NoOuterBlank text.toList := by
  generalize hv : column.value game = value at h
  cases h with
  | string =>
    rw [eq_name_of_value_eq_string hv]
    exact hname
  | integer n =>
    apply NoOuterBlank.of_forall
    exact fun c hc =>
      not_isBlank_of_visible (visible_of_isNumberChar (isNumberChar_of_mem_displayInteger hc))
  | real h =>
    apply NoOuterBlank.of_forall
    exact fun c hc => not_isBlank_of_visible (Binary64.visible_of_read? h c hc)

theorem readIntegerField_displayInteger (n : Int64) :
    readIntegerField (displayInteger n) = .ok n := by
  have hread := readInteger_displayInteger n
  unfold readIntegerField
  split
  · next ds he =>
    have hx : isNumberChar 'x' = true :=
      isNumberChar_of_mem_displayInteger (n := n) (by rw [he]; simp)
    exact absurd hx (by decide)
  · rw [hread]
    rfl

theorem readField_of_writes {column : Column} {game : Game} {text : String}
    (h : Writes (column.value game) text) : readField column text = .ok (column.value game) := by
  cases column with
  | name =>
    cases h
    rfl
  | rating | difficulty =>
    cases h with
    | real h => simp only [readField, readRealField, h, Column.value, Except.map]
  | id | rank | minPlayers | maxPlayers | minTime | maxTime | year =>
    cases h
    simp only [readField, readIntegerField_displayInteger, Column.value, Except.map]

variable {game : Game} {columns : List (Option Column)} {fields : List (List Char)}

/-- The cells of a row are what its columns have of the game, the last of them in front. -/
theorem readCells_of_holds (hname : NoOuterBlank game.name.toList)
    (h : List.Forall₂ (Holds game) columns fields) (hnodup : columns.reduceOption.Nodup)
    (index : Nat) {cells : List (Column × Value)}
    (hfresh : ∀ column ∈ columns.reduceOption, cells.lookup column = none) :
    readCells index cells (columns.zip (fields.map fun cs => String.ofList (trimChars cs))) =
      .ok ((columns.reduceOption.map fun column => (column, column.value game)).reverse ++
        cells) := by
  -- Along the columns, with none of those to come among the cells already read.
  induction h generalizing index cells with
  | nil => rfl
  | cons hd _ ih =>
    rw [List.map_cons, List.zip_cons_cons]
    cases hd with
    | other =>
      rw [readCells, List.reduceOption_cons_of_none]
      rw [List.reduceOption_cons_of_none] at hnodup hfresh
      exact ih hnodup (index + 1) hfresh
    | @column column text _ hw hf =>
      rw [List.reduceOption_cons_of_some] at hnodup hfresh ⊢
      obtain ⟨hnew, hnodup⟩ := List.nodup_cons.mp hnodup
      have hfree : (cells.lookup column).isSome = false := by
        rw [hfresh column List.mem_cons_self]
        rfl
      rw [hf.trimChars_eq (noOuterBlank_of_writes hname hw), String.ofList_toList, readCells]
      simp only [hfree, readField_of_writes hw, Bool.false_eq_true, if_false]
      rw [ih hnodup (index + 1) ?_]
      · simp
      · intro other ho
        have hne : (other == column) = false := beq_false_of_ne fun he => hnew (he ▸ ho)
        rw [List.lookup_cons, hne]
        exact hfresh other (List.mem_cons_of_mem column ho)

theorem lookup_map_self (f : Column → Value) {columns : List Column} {column : Column}
    (h : column ∈ columns) :
    (columns.map fun column => (column, f column)).lookup column = some (f column) := by
  induction columns with
  | nil => cases h
  | cons other columns ih =>
    rw [List.map_cons, List.lookup_cons]
    by_cases he : column = other
    · simp [he]
    · rw [beq_false_of_ne he]
      exact ih ((List.mem_cons.mp h).resolve_left he)

theorem gameOfCells_eq {cells : List (Column × Value)}
    (h : ∀ column : Column, cells.lookup column = some (column.value game)) :
    gameOfCells cells = .ok game := by
  simp only [gameOfCells, stringCell, integerCell, realCell, h, Column.value]
  rfl

theorem gameOfTexts_of_holds (hname : NoOuterBlank game.name.toList)
    (hcolumns : columns.reduceOption.Perm Column.all)
    (h : List.Forall₂ (Holds game) columns fields) (width : Nat) :
    gameOfTexts ⟨columns, width, false⟩
      (fields.map fun cs => String.ofList (trimChars cs)) = .ok game := by
  have hall : Column.all.Nodup := by decide
  have hcells : readCells 0 [] (columns.zip (fields.map fun cs => String.ofList (trimChars cs))) =
      .ok ((columns.reduceOption.map fun column => (column, column.value game)).reverse ++ []) :=
    readCells_of_holds hname h (hcolumns.nodup_iff.mpr hall) 0 fun _ _ => rfl
  rw [List.append_nil] at hcells
  have hgame : gameOfCells ((columns.reduceOption.map fun column =>
      (column, column.value game)).reverse) = .ok game := by
    apply gameOfCells_eq
    intro column
    rw [← List.map_reverse]
    exact lookup_map_self (Column.value · game)
      (List.mem_reverse.mpr (hcolumns.mem_iff.mpr column.mem_all))
  simp only [gameOfTexts, hcells]
  exact hgame

theorem gameOfRecord_of_holds (hname : NoOuterBlank game.name.toList)
    (hcolumns : columns.reduceOption.Perm Column.all)
    (h : List.Forall₂ (Holds game) columns fields) {record : Record}
    (hr : record.fields = fields.map utf8) (number : Nat) :
    gameOfRecord ⟨columns, columns.length, false⟩ number record = .ok game := by
  have hlength : record.fields.length = columns.length := by
    rw [hr, List.length_map, h.length_eq]
  have htexts := fieldTexts_utf8 0 fields
  rw [← hr] at htexts
  simp only [gameOfRecord, hlength, htexts, gameOfTexts_of_holds hname hcolumns h, ne_eq,
    not_true_eq_false, if_false]
  rfl

theorem fields_ne_nil_of_holds (hne : columns ≠ []) {games : List Game} {rows : List Row}
    (h : List.Forall₂ (fun game row => List.Forall₂ (Holds game) columns row.fields) games rows) :
    ∀ row ∈ rows, row.fields ≠ [] := by
  induction h with
  | nil => exact fun _ hm => absurd hm List.not_mem_nil
  | cons hd _ ih =>
    refine List.forall_mem_cons.mpr ⟨fun hnil => hne ?_, ih⟩
    rw [hnil] at hd
    exact List.forall₂_nil_right_iff.mp hd

theorem gamesOfRecords_of_holds (hcolumns : columns.reduceOption.Perm Column.all)
    {games : List Game} {rows : List Row} (hnames : ∀ game ∈ games, NoOuterBlank game.name.toList)
    (h : List.Forall₂ (fun game row => List.Forall₂ (Holds game) columns row.fields) games rows)
    {records : List Record}
    (hr : records.map Record.fields = rows.map fun row => row.fields.map utf8) (number : Nat) :
    gamesOfRecords ⟨columns, columns.length, false⟩ number records = .ok games := by
  induction h generalizing records number with
  | nil =>
    rw [List.map_eq_nil_iff.mp hr]
    rfl
  | @cons game row games rows hd _ ih =>
    obtain ⟨record, records, rfl, hrecord, hr⟩ := List.map_eq_cons_iff.mp hr
    have hgame := gameOfRecord_of_holds (hnames game List.mem_cons_self) hcolumns hd hrecord number
    have hgames := ih (fun g hg => hnames g (List.mem_cons_of_mem game hg)) hr (number + 1)
    rw [gamesOfRecords, hgame, hgames]
    rfl

end Rows

/-- Games are read back from the rows they are written as, in their order: whatever the order of the
columns, whichever of its names each column goes by, whatever other columns there are, with blanks
around any field and either line end behind any row. -/
theorem read_written {columns : List (Option Column)} {header : Row} {games : List Game}
    {rows : List Row} (hcolumns : columns.reduceOption.Perm Column.all)
    (hheader : List.Forall₂ Heads columns header.fields)
    (hnames : ∀ game ∈ games, NoOuterBlank game.name.toList)
    (hrows : List.Forall₂ (fun game row => List.Forall₂ (Holds game) columns row.fields) games
      rows) :
    read (utf8 ((header :: rows).flatMap Row.text)) = .ok games := by
  have hne : columns ≠ [] := by
    rintro rfl
    exact absurd hcolumns.length_eq (by decide)
  have hfields : ∀ row ∈ header :: rows, row.fields ≠ [] := by
    refine List.forall_mem_cons.mpr ⟨fun hnil => hne ?_, fields_ne_nil_of_holds hne hrows⟩
    rw [hnil] at hheader
    exact List.forall₂_nil_right_iff.mp hheader
  obtain ⟨first, records, hrecords, hfirst, hrest⟩ :=
    List.map_eq_cons_iff.mp (fields_records_written hfields)
  have hlayout := ofHeader_eq hheader
  rw [← hheader.length_eq] at hlayout
  simp only [read, hrecords, hfirst, hlayout]
  exact gamesOfRecords_of_holds hcolumns hnames hrows hrest 1

/-- The columns with the most players and the least stand in each other's place, three headers are
aliases and one belongs to no column; the name has a comma, quotes and a line feed in it and blanks
around it. -/
theorem read_written_of_shuffled_columns :
    let game : Game :=
      ⟨"Go, \"Fish\"\nTwo", 1, -2, 2, 5, 10, 30, 2000, .zero, .ofMagnitude true 0⟩
    let header : Row := ⟨["year".toList, "maxplayers".toList, "minplayers".toList, " name".toList,
      "a \"note\"".toList, "id".toList, "rank".toList, "minplaytime".toList, "maxtime".toList,
      "difficulty".toList, "rating".toList], .carriageFeed⟩
    let row : Row := ⟨[(displayInteger 2000).toList, (displayInteger 5).toList,
      (displayInteger 2).toList, '\t' :: game.name.toList ++ [' '], [',', '\n'],
      (displayInteger 1).toList, (displayInteger (-2)).toList, (displayInteger 10).toList,
      (displayInteger 30).toList, "-0e1".toList, "0.0".toList], .feed⟩
    read (utf8 ([header, row].flatMap Row.text)) = .ok [game] := by
  intro game header row
  let columns : List (Option Column) :=
    [some .year, some .maxPlayers, some .minPlayers, some .name, none, some .id, some .rank,
      some .minTime, some .maxTime, some .difficulty, some .rating]
  have hperm : columns.reduceOption.Perm Column.all := by decide
  have hcolumn : ∀ (column : Column) (name : String), name ∈ column.headers →
      Heads (some column) name.toList := fun _ _ hn => .column hn (.refl _)
  have hheader : List.Forall₂ Heads columns header.fields := by
    have hname : Heads (some .name) " name".toList :=
      .column (show "name" ∈ _ by decide) ⟨[' '], [], by decide, by decide, rfl⟩
    have hnote : Heads none "a \"note\"".toList := .other fun column => by cases column <;> decide
    exact .cons (hcolumn .year _ (by decide)) <| .cons (hcolumn .maxPlayers _ (by decide)) <|
      .cons (hcolumn .minPlayers _ (by decide)) <| .cons hname <| .cons hnote <|
      .cons (hcolumn .id _ (by decide)) <| .cons (hcolumn .rank _ (by decide)) <|
      .cons (hcolumn .minTime _ (by decide)) <| .cons (hcolumn .maxTime _ (by decide)) <|
      .cons (hcolumn .difficulty _ (by decide)) <| .cons (hcolumn .rating _ (by decide)) .nil
  have hrow : List.Forall₂ (Holds game) columns row.fields := by
    have hinteger : ∀ (column : Column) (n : Int64), column.value game = .integer n →
        Holds game (some column) (displayInteger n).toList :=
      fun column n hv => .column (hv ▸ Writes.integer n : Writes (column.value game) _) (.refl _)
    have hname : Holds game (some .name) ('\t' :: game.name.toList ++ [' ']) :=
      .column (.string game.name) ⟨['\t'], [' '], by decide, by decide, rfl⟩
    have hrating : Holds game (some .rating) "0.0".toList := .column (.real (by decide)) (.refl _)
    have hdifficulty : Holds game (some .difficulty) "-0e1".toList :=
      .column (.real (by decide)) (.refl _)
    exact .cons (hinteger .year _ rfl) <| .cons (hinteger .maxPlayers _ rfl) <|
      .cons (hinteger .minPlayers _ rfl) <| .cons hname <| .cons (.other _) <|
      .cons (hinteger .id _ rfl) <| .cons (hinteger .rank _ rfl) <|
      .cons (hinteger .minTime _ rfl) <| .cons (hinteger .maxTime _ rfl) <|
      .cons hdifficulty <| .cons hrating .nil
  have hnames : ∀ g ∈ [game], NoOuterBlank g.name.toList := by
    intro g hg
    rw [List.mem_singleton.mp hg]
    decide
  exact read_written hperm hheader hnames (.cons hrow .nil)

end Catalog
end GameShelf
