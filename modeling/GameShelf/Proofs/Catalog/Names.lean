import GameShelf.Catalog.Reader
import GameShelf.Proofs.Files
import GameShelf.Proofs.Text.Trim

namespace GameShelf.Catalog

def Trimmed (text : String) : Prop := NoOuterBlank text.toList

theorem trimmed_fieldText {bytes : List UInt8} {text : String} (h : fieldText bytes = .ok text) :
    Trimmed text := by
  obtain ⟨decoded, -, rfl⟩ := map_eq_ok.mp h
  rw [Trimmed, toList_trim]
  exact noOuterBlank_trimChars decoded.toList

theorem trimmed_fieldTexts {index : Nat} {fields : List (List UInt8)} {texts : List String}
    (h : fieldTexts index fields = .ok texts) : ∀ text ∈ texts, Trimmed text := by
  induction fields generalizing index texts with
  | nil =>
    cases h
    simp
  | cons field fields ih =>
    obtain ⟨text, ht, h⟩ := bind_eq_ok.mp h
    obtain ⟨rest, hr, h⟩ := bind_eq_ok.mp h
    cases h
    intro other hm
    rcases List.mem_cons.mp hm with rfl | hm
    · exact trimmed_fieldText (mapError_eq_ok.mp ht)
    · exact ih hr other hm

def TrimmedCells (cells : List (Column × Value)) : Prop :=
  ∀ column text, (column, Value.string text) ∈ cells → Trimmed text

theorem eq_of_readField_string {column : Column} {text string : String}
    (h : readField column text = .ok (.string string)) : string = text := by
  cases column with
  | name =>
    cases h
    rfl
  | rating | difficulty =>
    obtain ⟨x, -, hx⟩ := map_eq_ok.mp h
    cases hx
  | id | rank | minPlayers | maxPlayers | minTime | maxTime | year =>
    obtain ⟨n, -, hn⟩ := map_eq_ok.mp h
    cases hn

theorem trimmed_readCells {index : Nat} {cells read : List (Column × Value)}
    {fields : List (Option Column × String)} (hc : TrimmedCells cells)
    (hf : ∀ field ∈ fields, Trimmed field.2) (h : readCells index cells fields = .ok read) :
    TrimmedCells read := by
  induction fields generalizing index cells with
  | nil =>
    cases h
    exact hc
  | cons field rest ih =>
    obtain ⟨column, text⟩ := field
    have hrest : ∀ field ∈ rest, Trimmed field.2 := fun field hm => hf field (by simp [hm])
    cases column with
    | none => exact ih hc hrest h
    | some column =>
      rw [readCells] at h
      split at h
      · cases h
      · split at h
        · cases h
        · next value hv =>
          refine ih ?_ hrest h
          intro other string hm
          rcases List.mem_cons.mp hm with he | hm
          · cases he
            rw [eq_of_readField_string hv]
            exact hf (some column, text) (by simp)
          · exact hc other string hm

theorem mem_of_stringCell {cells : List (Column × Value)} {column : Column} {text : String}
    (h : stringCell cells column = .ok text) : (column, .string text) ∈ cells := by
  unfold stringCell at h
  split at h
  · next found hl =>
    cases h
    obtain ⟨before, after, rfl, -⟩ := List.lookup_eq_some_iff.mp hl
    simp
  · cases h

theorem stringCell_of_gameOfCells {cells : List (Column × Value)} {game : Game}
    (h : gameOfCells cells = .ok game) : stringCell cells .name = .ok game.name := by
  simp only [gameOfCells, bind_eq_ok] at h
  obtain ⟨name, hn, _, -, _, -, _, -, _, -, _, -, _, -, _, -, _, -, _, -, h⟩ := h
  cases h
  exact hn

theorem trimmed_gameOfTexts {layout : Layout} {texts : List String} {game : Game}
    (ht : ∀ text ∈ texts, Trimmed text) (h : gameOfTexts layout texts = .ok game) :
    Trimmed game.name := by
  obtain ⟨cells, hcells, h⟩ := bind_eq_ok.mp h
  have hgame : gameOfCells cells = .ok game := by
    split at h
    · cases h
    · exact h
  have hfields : ∀ field ∈ layout.columns.zip texts, Trimmed field.2 :=
    fun field hm => ht field.2 (List.of_mem_zip hm).2
  have hempty : TrimmedCells [] := fun column text hm => absurd hm List.not_mem_nil
  exact trimmed_readCells hempty hfields hcells _ _
    (mem_of_stringCell (stringCell_of_gameOfCells hgame))

theorem trimmed_gameOfRecord {layout : Layout} {number : Nat} {record : Record} {game : Game}
    (h : gameOfRecord layout number record = .ok game) : Trimmed game.name := by
  unfold gameOfRecord at h
  simp only at h
  split at h
  · cases h
  · split at h
    · cases h
    · next texts ht => exact trimmed_gameOfTexts (trimmed_fieldTexts ht) (mapError_eq_ok.mp h)

theorem trimmed_gamesOfRecords {layout : Layout} {number : Nat} {records : List Record}
    {games : List Game} (h : gamesOfRecords layout number records = .ok games) :
    ∀ game ∈ games, Trimmed game.name := by
  induction records generalizing number games with
  | nil =>
    cases h
    simp
  | cons record records ih =>
    obtain ⟨game, hg, h⟩ := bind_eq_ok.mp h
    obtain ⟨rest, hr, h⟩ := bind_eq_ok.mp h
    cases h
    intro other hm
    rcases List.mem_cons.mp hm with rfl | hm
    · exact trimmed_gameOfRecord hg
    · exact ih hr other hm

theorem trimmed_of_read {bytes : List UInt8} {games : List Game} (h : read bytes = .ok games) :
    ∀ game ∈ games, Trimmed game.name := by
  unfold read at h
  split at h
  · cases h
    simp
  · exact trimmed_gamesOfRecords h

end GameShelf.Catalog
