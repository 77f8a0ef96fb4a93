import GameShelf.Proofs.Catalog.Names
import GameShelf.Proofs.Files
import GameShelf.Proofs.Picks.Edits
import GameShelf.Proofs.Text.Lines

namespace GameShelf

theorem Selector.subset_of_pick {s : Selector} {text : String} {source picked : List String}
    (h : s.pick text source = .ok picked) : picked ⊆ source := by
  cases s with
  | all =>
    cases h
    exact List.Subset.refl _
  | range first last =>
    rw [pick] at h
    split at h
    · cases h
    · cases h
      exact fun name hm => List.mem_of_mem_drop (List.mem_of_mem_take hm)
  | position n =>
    rw [pick] at h
    split at h
    · cases h
    · split at h
      · cases h
      · next found hf =>
        cases h
        exact List.cons_subset.mpr ⟨List.mem_of_getElem? hf, List.nil_subset _⟩
  | name wanted =>
    rw [pick] at h
    split at h
    · cases h
    · next found hf =>
      cases h
      exact List.cons_subset.mpr ⟨List.mem_of_find?_eq_some hf, List.nil_subset _⟩

theorem Selector.subset_of_resolve {action : PickAction} {raw : String}
    {source picked : List String} (h : resolve action raw source = .ok picked) :
    picked ⊆ source := by
  obtain ⟨read, -, hp⟩ := bind_eq_ok.mp h
  exact subset_of_pick hp

namespace Picks

def Edit.DrawsFrom (games : List Game) : Edit → Prop
  | .add _ candidates => candidates ⊆ games
  | .remove _ | .clear => True

theorem name_of_mem_edit {p q : Picks} {e : Edit} {games : List Game} (hd : e.DrawsFrom games)
    (h : p.edit e = .ok q) {name : String} (hm : name ∈ q.members) :
    name ∈ p.members ∨ ∃ game ∈ games, game.name = name := by
  cases e with
  | add selector candidates =>
    rw [edit, add_eq_resolve] at h
    obtain ⟨picked, hp, rfl⟩ := map_eq_ok.mp h
    rcases (mem_insertAll p picked name).mp hm with hpicked | hm
    · obtain ⟨game, hg, rfl⟩ := List.mem_map.mp (Selector.subset_of_resolve hp hpicked)
      exact .inr ⟨game, hd hg, rfl⟩
    · exact .inl hm
  | remove selector =>
    rw [edit, remove_eq_resolve] at h
    obtain ⟨picked, -, rfl⟩ := map_eq_ok.mp h
    exact .inl ((mem_eraseAll p picked name).mp hm).1
  | clear =>
    cases h
    exact absurd hm List.not_mem_nil

theorem name_of_mem_run {games : List Game} {edits : List Edit}
    (hd : ∀ e ∈ edits, e.DrawsFrom games) {name : String}
    (hm : name ∈ (empty.run edits).members) : ∃ game ∈ games, game.name = name := by
  induction edits using List.reverseRecOn generalizing name with
  | nil => exact absurd hm List.not_mem_nil
  | append_singleton edits e ih =>
    have hbefore : ∀ e ∈ edits, e.DrawsFrom games := fun e he => hd e (by simp [he])
    rw [run_append] at hm
    cases hp : (empty.run edits).edit e with
    | error reason => exact ih hbefore (by simpa [hp, Except.toOption] using hm)
    | ok q =>
      have hq : name ∈ q.members := by simpa [hp, Except.toOption] using hm
      rcases name_of_mem_edit (hd e (by simp)) hp hq with hm | hg
      · exact ih hbefore hm
      · exact hg

theorem toList_savedText (p : Picks) :
    p.savedText.toList = (p.names.map String.toList).flatMap (· ++ ['\n']) := by
  simp [savedText, String.toList_join, List.flatMap_map]

theorem textLines_savedText_iff (p : Picks)
    (hc : ∀ name ∈ p.names, name.toList.getLast? ≠ some '\r') :
    textLines p.savedText = p.names ↔ ∀ name ∈ p.names, '\n' ∉ name.toList := by
  constructor
  · intro h name hm
    rw [← h] at hm
    obtain ⟨line, hl, rfl⟩ := List.mem_map.mp hm
    rw [String.toList_ofList]
    exact notMem_of_mem_linesOf hl
  · intro h
    have hlines : linesOf '\n' '\r' p.savedText.toList = p.names.map String.toList := by
      rw [toList_savedText]
      exact linesOf_ended (by simpa using h) (by simpa using hc)
    rw [textLines, hlines, List.map_map]
    exact (List.map_congr_left fun name _ => String.ofList_toList).trans (List.map_id' _)

theorem getLast?_ne_carriage {text : String} (h : Catalog.Trimmed text) :
    text.toList.getLast? ≠ some '\r' := by
  intro hl
  exact absurd (h.2 '\r' hl) (by decide)

/-- A list whose names come from a catalog that was read, once it is saved, leaves a file that holds
its lines and nothing else, whatever the file held before. The lines are the names, in the order
shown, exactly when no name has a line feed in it. -/
theorem saved_lines_eq_names_iff {bytes : List UInt8} {games : List Game}
    (hread : Catalog.read bytes = .ok games) {edits : List Edit}
    (hdraws : ∀ e ∈ edits, e.DrawsFrom games) {files written : Files} {path : String}
    (hwrite : files.write path (empty.run edits).savedText = .ok written) :
    ∃ text : String, written.read path = .ok (some text.toUTF8) ∧
      (textLines text = (empty.run edits).names ↔
        ∀ name ∈ (empty.run edits).names, '\n' ∉ name.toList) := by
  refine ⟨_, Files.read_of_write hwrite, textLines_savedText_iff _ fun name hm => ?_⟩
  obtain ⟨game, hg, rfl⟩ := name_of_mem_run hdraws ((mem_names _ name).mp hm)
  exact getLast?_ne_carriage (Catalog.trimmed_of_read hread game hg)

section QuotedFeed

def quotedFeed : List UInt8 :=
  ("name,id,rank,minplayers,maxplayers,mintime,maxtime,year,rating,difficulty\n" ++
    "\"Go\nFish\",1,0,2,5,0,0,2000,0,0\n" ++
    "Chess,7,0,2,2,0,0,2006,0,0\n").toUTF8.data.toList

def goFish : Game := ⟨"Go\nFish", 1, 0, 2, 5, 0, 0, 2000, .zero, .zero⟩

def chess : Game := ⟨"Chess", 7, 0, 2, 2, 0, 0, 2006, .zero, .zero⟩

set_option maxRecDepth 8000 in
theorem read_quotedFeed : Catalog.read quotedFeed = .ok [goFish, chess] := by
  rfl

theorem names_of_single {p : Picks} {name : String} (h : p.members = [name]) :
    p.names = [name] := by
  rw [names, h, List.mergeSort_singleton]

theorem saved_lines_eq_names_of_plain_name :
    let edits : List Edit := [.add "2" [goFish, chess]]
    let files : Files := ⟨[(["picks.txt"], "Go\nFish\n".toUTF8)]⟩
    let written := files.put ["picks.txt"] "Chess\n".toUTF8
    Catalog.read quotedFeed = .ok [goFish, chess] ∧
      (∀ e ∈ edits, e.DrawsFrom [goFish, chess]) ∧
      files.write "picks.txt" (empty.run edits).savedText = .ok written ∧
      ∃ text : String, written.read "picks.txt" = .ok (some text.toUTF8) ∧
        textLines text = (empty.run edits).names := by
  intro edits files written
  have hdraws : ∀ e ∈ edits, e.DrawsFrom [goFish, chess] := by
    intro e he
    rw [List.mem_singleton.mp he]
    exact List.Subset.refl _
  have hnames : (empty.run edits).names = ["Chess"] := names_of_single (by decide)
  have hwrite : files.write "picks.txt" (empty.run edits).savedText = .ok written := by
    rw [savedText, hnames]
    rfl
  obtain ⟨text, ht, hlines⟩ := saved_lines_eq_names_iff read_quotedFeed hdraws hwrite
  refine ⟨read_quotedFeed, hdraws, hwrite, text, ht, hlines.mpr ?_⟩
  rw [hnames]
  decide

/-- The name with the feed comes back as two. -/
theorem saved_line_feed_splits_name :
    let edits : List Edit := [.add "1" [goFish, chess]]
    let written := Files.empty.put ["picks.txt"] "Go\nFish\n".toUTF8
    Catalog.read quotedFeed = .ok [goFish, chess] ∧
      Files.empty.write "picks.txt" (empty.run edits).savedText = .ok written ∧
      written.read "picks.txt" = .ok (some "Go\nFish\n".toUTF8) ∧
      textLines "Go\nFish\n" = ["Go", "Fish"] ∧ (empty.run edits).names = ["Go\nFish"] ∧
      textLines "Go\nFish\n" ≠ (empty.run edits).names := by
  intro edits written
  have hnames : (empty.run edits).names = ["Go\nFish"] := names_of_single (by decide)
  have hlines : textLines "Go\nFish\n" = ["Go", "Fish"] := by decide
  have hwrite : Files.empty.write "picks.txt" (empty.run edits).savedText = .ok written := by
    rw [savedText, hnames]
    rfl
  refine ⟨read_quotedFeed, hwrite, rfl, hlines, hnames, ?_⟩
  rw [hlines, hnames]
  decide

end QuotedFeed

end Picks
end GameShelf
