import GameShelf.Proofs.Picks.Edits

namespace GameShelf

/-- Whether a name is the first in a list that is the given one up to the case of its letters. -/
def IsFirstSpelling (source : List String) (name picked : String) : Prop :=
  foldEq picked name = true ∧
    ∃ before after, source = before ++ picked :: after ∧ ∀ other ∈ before, foldEq other name = false

theorem isFirstSpelling_iff (source : List String) (name picked : String) :
    IsFirstSpelling source name picked ↔ source.find? (foldEq · name) = some picked := by
  simp [IsFirstSpelling, List.find?_eq_some_iff_append]

theorem exists_isFirstSpelling {source : List String} {name : String} (h : name ∈ source) :
    ∃ picked, IsFirstSpelling source name picked := by
  have hsome : (source.find? (foldEq · name)).isSome = true :=
    List.find?_isSome.mpr ⟨name, h, foldEq_refl name⟩
  obtain ⟨picked, hp⟩ := Option.isSome_iff_exists.mp hsome
  exact ⟨picked, (isFirstSpelling_iff source name picked).mpr hp⟩

theorem IsFirstSpelling.mem {source : List String} {name picked : String}
    (h : IsFirstSpelling source name picked) : picked ∈ source := by
  obtain ⟨-, before, after, rfl, -⟩ := h
  exact List.mem_append_right before List.mem_cons_self

theorem IsFirstSpelling.unique {source : List String} {name picked other : String}
    (h : IsFirstSpelling source name picked) (ho : IsFirstSpelling source name other) :
    picked = other := by
  rw [isFirstSpelling_iff] at h ho
  exact Option.some.inj (h.symm.trans ho)

theorem Selector.resolve_name {name picked : String} (hname : IsNameText name.toList)
    (hblank : NoOuterBlank name.toList) (action : PickAction) {source : List String}
    (h : IsFirstSpelling source name picked) : resolve action name source = .ok [picked] := by
  obtain ⟨hpicked, before, after, hs, hbefore⟩ := h
  have hr := resolves action name source
  rw [trimChars_eq_self hblank] at hr
  rw [← String.ofList_toList (s := name)] at hpicked hbefore
  exact hr.found hname before picked after hs hpicked hbefore

theorem compare_eq_lt_of_spellings {a b name : String} (h : nameCompare a b = .lt)
    (ha : foldEq a name = true) (hb : foldEq b name = true) : compare a b = .lt := by
  have hfold : foldCompare a b = .eq := by
    rw [foldEq_iff] at ha hb
    exact beq_iff_eq.mp ((foldEq_iff a b).mpr (ha.trans hb.symm))
  rwa [nameCompare, hfold] at h

theorem isNameText_of_head? {cs : List Char} {c : Char} (hc : c ∈ cs.head?)
    (hdigit : c.isDigit = false) (hall : asciiEq (String.ofList cs) "all" = false) :
    IsNameText cs := by
  refine ⟨?_, hall, fun first last h => ?_⟩
  · rintro rfl
    cases hc
  · rw [h.isDigit_of_head? hc] at hdigit
    cases hdigit

namespace Picks

/-- The first spelling of a name among the picks is the least of them. -/
theorem isLE_of_isFirstSpelling {p : Picks} {name picked other : String}
    (h : IsFirstSpelling p.names name picked) (ho : other ∈ p.names)
    (hother : foldEq other name = true) : (compare picked other).isLE := by
  obtain ⟨hpicked, before, after, hs, hbefore⟩ := h
  have hascending := p.names_ascending
  rw [hs] at ho hascending
  rcases List.mem_append.mp ho with hm | hm
  · rw [hbefore other hm] at hother
    cases hother
  · rcases List.mem_cons.mp hm with rfl | hm
    · exact Std.ReflCmp.isLE_rfl
    · have hlt : nameCompare picked other = .lt :=
        List.rel_of_pairwise_cons (List.pairwise_append.mp hascending).2.1 hm
      rw [compare_eq_lt_of_spellings hlt hpicked hother]
      rfl

section Selecting

variable {name picked : String} (hname : IsNameText name.toList)
  (hblank : NoOuterBlank name.toList) (p : Picks)
include hname hblank

theorem add_first_spelling {source : List String} (h : IsFirstSpelling source name picked) :
    ∃ q, p.add name source = .ok q ∧
      ∀ other, other ∈ q.names ↔ other ∈ p.names ∨ other = picked := by
  refine ⟨p.insertAll [picked], ?_, fun other => ?_⟩
  · rw [add_eq_resolve, Selector.resolve_name hname hblank .add h]
    rfl
  · rw [mem_names, mem_insertAll, mem_names, List.mem_singleton, or_comm]

theorem remove_first_spelling (h : IsFirstSpelling p.names name picked) :
    ∃ q, p.remove name = .ok q ∧
      ∀ other, other ∈ q.names ↔ other ∈ p.names ∧ other ≠ picked := by
  refine ⟨p.eraseAll [picked], ?_, fun other => ?_⟩
  · rw [remove_eq_resolve, Selector.resolve_name hname hblank .remove h]
    rfl
  · rw [mem_names, mem_eraseAll, mem_names, List.mem_singleton]

end Selecting

/-- A name that is listed exactly as it is given selects its first spelling, from the candidates to
add and from the picks to remove, and nothing else changes. It selects itself exactly where no other
spelling comes first: none before it among the candidates, and none less than it among the picks. -/
theorem name_selects_first_spelling {name : String} (hname : IsNameText name.toList)
    (hblank : NoOuterBlank name.toList) (p : Picks) :
    (∀ candidates : List Game, name ∈ candidates.map Game.name →
      ∃ picked q, IsFirstSpelling (candidates.map Game.name) name picked ∧
        p.add name (candidates.map Game.name) = .ok q ∧
        (∀ other, other ∈ q.names ↔ other ∈ p.names ∨ other = picked) ∧
        (name ∈ q.names ↔
          name ∈ p.names ∨ IsFirstSpelling (candidates.map Game.name) name name)) ∧
    (name ∈ p.names →
      ∃ picked q, IsFirstSpelling p.names name picked ∧
        (∀ other ∈ p.names, foldEq other name = true → (compare picked other).isLE) ∧
        p.remove name = .ok q ∧
        (∀ other, other ∈ q.names ↔ other ∈ p.names ∧ other ≠ picked) ∧
        (name ∉ q.names ↔
          ∀ other ∈ p.names, foldEq other name = true → (compare name other).isLE)) := by
  refine ⟨fun candidates hm => ?_, fun hm => ?_⟩
  · obtain ⟨picked, hp⟩ := exists_isFirstSpelling hm
    obtain ⟨q, hadd, hq⟩ := add_first_spelling hname hblank p hp
    refine ⟨picked, q, hp, hadd, hq, ?_⟩
    rw [hq]
    refine or_congr_right ⟨fun he => ?_, fun hn => hn.unique hp⟩
    rwa [← he] at hp
  · obtain ⟨picked, hp⟩ := exists_isFirstSpelling hm
    obtain ⟨q, hremove, hq⟩ := remove_first_spelling hname hblank p hp
    have hleast : ∀ other ∈ p.names, foldEq other name = true → (compare picked other).isLE :=
      fun other ho hother => isLE_of_isFirstSpelling hp ho hother
    refine ⟨picked, q, hp, hleast, hremove, hq, ?_⟩
    rw [hq, not_and, not_not]
    refine ⟨fun hgone => ?_, fun hn _ => ?_⟩
    · rwa [← hgone hm] at hleast
    · -- the name and the spelling taken are each no greater than the other
      exact Std.LawfulEqOrd.eq_of_compare
        (Std.OrientedCmp.isLE_antisymm (hn picked hp.mem hp.1)
          (hleast name hm (foldEq_refl name)))

theorem name_selects_first_spelling_of_least :
    let candidates := ["Chess", "Go", "go"].map (Game.named · 1)
    let p := empty.run [.add "3" candidates, .add "2" candidates]
    IsNameText "Go".toList ∧ NoOuterBlank "Go".toList ∧ "Go" ∈ candidates.map Game.name ∧
      (∃ q, empty.add "Go" (candidates.map Game.name) = .ok q ∧ "Go" ∈ q.names) ∧
      "Go" ∈ p.names ∧ ∃ q, p.remove "Go" = .ok q ∧ "Go" ∉ q.names := by
  intro candidates p
  have hname : IsNameText "Go".toList :=
    isNameText_of_head? (by decide : 'G' ∈ "Go".toList.head?) (by decide) (by decide)
  have hblank : NoOuterBlank "Go".toList := by decide
  have hm : "Go" ∈ candidates.map Game.name := by decide
  have hp : "Go" ∈ p.names := (mem_names p "Go").mpr (by decide)
  have hfirst : IsFirstSpelling (candidates.map Game.name) "Go" "Go" :=
    ⟨by decide, ["Chess"], ["go"], rfl, by decide⟩
  obtain ⟨-, q, -, hadd, -, hin⟩ :=
    (name_selects_first_spelling hname hblank empty).1 candidates hm
  obtain ⟨-, r, -, -, hremove, -, hout⟩ :=
    (name_selects_first_spelling hname hblank p).2 hp
  refine ⟨hname, hblank, hm, ⟨q, hadd, hin.mpr (.inr hfirst)⟩, hp, r, hremove, ?_⟩
  have hleast : ∀ other ∈ ["Go", "go"], (compare "Go" other).isLE := by decide
  exact hout.mpr fun other ho _ => hleast other ((mem_names p other).mp ho)

/-- Another spelling that comes first is taken in the name's place, to add and to remove. -/
theorem other_spelling_is_selected :
    let candidates := ["GO", "Go"].map (Game.named · 1)
    let p := empty.run [.add "2" candidates, .add "1" candidates]
    IsNameText "Go".toList ∧ NoOuterBlank "Go".toList ∧ "Go" ∈ candidates.map Game.name ∧
      (∃ q, empty.add "Go" (candidates.map Game.name) = .ok q ∧ "Go" ∉ q.names) ∧
      "Go" ∈ p.names ∧ "GO" ∈ p.names ∧
      ∃ q, p.remove "Go" = .ok q ∧ "Go" ∈ q.names ∧ "GO" ∉ q.names := by
  intro candidates p
  have hname : IsNameText "Go".toList :=
    isNameText_of_head? (by decide : 'G' ∈ "Go".toList.head?) (by decide) (by decide)
  have hblank : NoOuterBlank "Go".toList := by decide
  have hnames : p.names = ["GO", "Go"] := List.mergeSort_of_pairwise (by decide)
  have hfirst : IsFirstSpelling ["GO", "Go"] "Go" "GO" :=
    ⟨by decide, [], ["Go"], rfl, by decide⟩
  obtain ⟨q, hadd, hq⟩ := add_first_spelling hname hblank empty hfirst
  obtain ⟨r, hremove, hr⟩ := remove_first_spelling hname hblank p (hnames ▸ hfirst)
  rw [hnames] at hr ⊢
  refine ⟨hname, hblank, by decide, ⟨q, hadd, ?_⟩, by decide, by decide, r, hremove, ?_, ?_⟩
  · rw [hq, mem_names]
    decide
  · rw [hr]
    decide
  · rw [hr]
    decide

end Picks
end GameShelf
