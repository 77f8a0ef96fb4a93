import GameShelf.Proofs.Picks.Edits
import GameShelf.Proofs.Sorting.Stable

namespace GameShelf

section Rows

variable {α : Type}

/-- The list without its rows from `first` to `last`, counted from one. -/
def cutRows (first last : Nat) (l : List α) : List α := l.take (first - 1) ++ l.drop last

variable {first last : Nat} {l : List α}

theorem length_cutRows (hfirst : 1 ≤ first) (hlast : first ≤ last) (h : last ≤ l.length) :
    (cutRows first last l).length + (last + 1 - first) = l.length := by
  rw [cutRows, List.length_append, List.length_take, List.length_drop]
  omega

/-- Cutting a row brings those after it one place forward. -/
theorem cutRows_cutRows (hfirst : 1 ≤ first) (h : first ≤ l.length) (n : Nat) :
    cutRows first (first - 1 + n) (cutRows first first l) = cutRows first (first + n) l := by
  have hlen : (l.take (first - 1)).length = first - 1 := List.length_take_of_le (by omega)
  have htake : (cutRows first first l).take (first - 1) = l.take (first - 1) := by
    rw [cutRows, List.take_append_of_le_length hlen.ge, List.take_take, Nat.min_self]
  have hdrop : (cutRows first first l).drop (first - 1 + n) = l.drop (first + n) := by
    rw [cutRows, List.drop_append, hlen, List.drop_of_length_le (by omega), List.nil_append,
      List.drop_drop]
    congr 1
    omega
  rw [cutRows, htake, hdrop]
  rfl

theorem filter_notMem_middle [DecidableEq α] {before middle after : List α}
    (h : (before ++ middle ++ after).Nodup) :
    (before ++ middle ++ after).filter (fun a => !middle.contains a) = before ++ after := by
  obtain ⟨hbm, -, hdisjoint⟩ := List.nodup_append.mp h
  obtain ⟨-, -, hbefore⟩ := List.nodup_append.mp hbm
  have hb : before.filter (fun a => !middle.contains a) = before := by
    refine List.filter_eq_self.mpr fun a ha => ?_
    simpa using fun hm => hbefore a ha a hm rfl
  have hm : middle.filter (fun a => !middle.contains a) = [] := by
    refine List.filter_eq_nil_iff.mpr fun a ha => ?_
    simpa using ha
  have ha : after.filter (fun a => !middle.contains a) = after := by
    refine List.filter_eq_self.mpr fun a ha => ?_
    simpa using fun hm => hdisjoint a (List.mem_append_right before hm) a ha rfl
  rw [List.filter_append, List.filter_append, hb, hm, ha, List.append_nil]

theorem filter_notMem_rows [DecidableEq α] (hl : l.Nodup) (hfirst : 1 ≤ first)
    (hlast : first ≤ last) :
    l.filter (fun a => !((l.drop (first - 1)).take (last + 1 - first)).contains a) =
      cutRows first last l := by
  have hafter : (l.drop (first - 1)).drop (last + 1 - first) = l.drop last := by
    rw [List.drop_drop]
    congr 1
    omega
  have hl' : l.take (first - 1) ++ (l.drop (first - 1)).take (last + 1 - first) ++ l.drop last =
      l := by
    rw [List.append_assoc, ← hafter, List.take_append_drop, List.take_append_drop]
  have h := filter_notMem_middle (hl'.symm ▸ hl)
  rwa [hl'] at h

end Rows

theorem RowsAsked.trimChars_eq {cs : List Char} {first last : Nat} (h : RowsAsked cs first last) :
    trimChars cs = cs := by
  have hdigits : ∀ {ds : List Char}, IsNumeral ds → ∀ c ∈ ds, isBlank c = false :=
    fun hd c hc => not_isBlank_of_visible (by have := toNat_of_isDigit (hd.2 c hc); omega)
  refine trimChars_eq_self (NoOuterBlank.of_forall fun c hc => ?_)
  cases h with
  | position hd => exact hdigits hd c hc
  | range hd he =>
    rcases List.mem_append.mp hc with hc | hc
    · exact hdigits hd c hc
    · rcases List.mem_cons.mp hc with rfl | hc
      · rfl
      · exact hdigits he c hc

theorem rowsAsked_range (first last : Nat) :
    RowsAsked (toString first ++ "-" ++ toString last).toList first last := by
  have h := RowsAsked.range (isNumeral_toDigits first) (isNumeral_toDigits last)
  rw [digitsValue_toDigits, digitsValue_toDigits] at h
  simpa [Nat.toString_eq_repr, Nat.toList_repr] using h

namespace Picks

theorem names_eraseAll (p : Picks) (names : List String) :
    (p.eraseAll names).names = p.names.filter fun name => !names.contains name :=
  mergeSort_filter nameCompare (fun name => !names.contains name) p.members

section Removal

variable {selector : String} {first last : Nat}

theorem remove_rows (p : Picks) (h : RowsAsked (trimChars selector.toList) first last)
    (hfirst : 1 ≤ first) (hlast : first ≤ last) (hcount : last ≤ p.count) :
    ∃ q, p.remove selector = .ok q ∧ q.names = cutRows first last p.names := by
  have hp := Selector.pick_rows h (String.ofList (trimChars selector.toList)) p.names
  rw [length_names, if_pos ⟨hfirst, hlast, hcount⟩] at hp
  rw [remove_eq_resolve, Selector.resolve_of_ne_nil h.ne_nil, hp]
  refine ⟨_, rfl, ?_⟩
  rw [names_eraseAll, filter_notMem_rows p.nodup_names hfirst hlast]

theorem count_of_cutRows {p q : Picks} (h : q.names = cutRows first last p.names)
    (hfirst : 1 ≤ first) (hlast : first ≤ last) (hcount : last ≤ p.count) :
    q.count + (last + 1 - first) = p.count := by
  rw [← length_names, ← length_names, h]
  exact length_cutRows hfirst hlast (by rwa [length_names])

variable {stored : Picks → Picks} (hstored : ∀ p, (stored p).Same p)
include hstored

/-- Removing the same row again and again takes the rows from there on, one at a time, even if the
names come to be stored in another sequence before each removal. -/
theorem remove_row_repeatedly (p : Picks) (h : RowsAsked (trimChars selector.toList) first first)
    (hfirst : 1 ≤ first) {n : Nat} (hcount : first - 1 + n ≤ p.count) :
    ∃ q, (List.replicate n selector).foldlM (fun now selector => (stored now).remove selector) p =
        .ok q ∧
      q.names = cutRows first (first - 1 + n) p.names := by
  induction n generalizing p with
  | zero => exact ⟨p, rfl, (List.take_append_drop (first - 1) p.names).symm⟩
  | succ n ih =>
    have hone : first ≤ p.count := by omega
    obtain ⟨q, hq, hnames⟩ := (stored p).remove_rows h hfirst (Nat.le_refl first)
      (by rwa [(hstored p).count_eq])
    rw [(hstored p).names_eq] at hnames
    have hless := count_of_cutRows hnames hfirst (Nat.le_refl first) hone
    obtain ⟨r, hr, hrest⟩ := ih q (by omega)
    refine ⟨r, ?_, ?_⟩
    · rw [List.replicate_succ, List.foldlM_cons, hq]
      exact hr
    · rw [hrest, hnames, cutRows_cutRows hfirst (by rwa [length_names])]
      congr 1
      omega

end Removal

/-- Removing by number from a list that edits have made takes away the rows asked for as they are
shown, and leaves the other names as they stand. Removing the first of the rows as often as there
are rows comes to the same. In what sequence the names are stored, before and in between, makes no
difference. -/
theorem remove_rows_cuts_names (edits : List Edit) {first last : Nat} (hfirst : 1 ≤ first)
    (hlast : first ≤ last) (hcount : last ≤ (empty.run edits).count) {stored : Picks → Picks}
    (hstored : ∀ p, (stored p).Same p) :
    let p := empty.run edits
    let rest := p.names.take (first - 1) ++ p.names.drop last
    RowsAsked (trimChars (toString first ++ "-" ++ toString last).toList) first last ∧
    RowsAsked (trimChars (toString first).toList) first first ∧
    (∀ selector, RowsAsked (trimChars selector.toList) first last →
      ∃ q, (stored p).remove selector = .ok q ∧ q.names = rest ∧
        q.count + (last + 1 - first) = p.count) ∧
    ∀ selector, RowsAsked (trimChars selector.toList) first first →
      ∃ q, (List.replicate (last + 1 - first) selector).foldlM
          (fun now selector => (stored now).remove selector) p = .ok q ∧ q.names = rest := by
  intro p rest
  refine ⟨?_, ?_, fun selector h => ?_, fun selector h => ?_⟩
  · rw [(rowsAsked_range first last).trimChars_eq]
    exact rowsAsked_range first last
  · rw [(rowsAsked_toString first).trimChars_eq]
    exact rowsAsked_toString first
  · obtain ⟨q, hq, hnames⟩ := (stored p).remove_rows h hfirst hlast
      (by rwa [(hstored p).count_eq])
    rw [(hstored p).names_eq] at hnames
    exact ⟨q, hq, hnames, count_of_cutRows hnames hfirst hlast hcount⟩
  · have hrows : first - 1 + (last + 1 - first) = last := by omega
    obtain ⟨q, hq, hnames⟩ := remove_row_repeatedly hstored p h hfirst (n := last + 1 - first)
      (by rwa [hrows])
    rw [hrows] at hnames
    exact ⟨q, hq, hnames⟩

theorem remove_rows_of_three_spellings :
    let edits : List Edit := [.add "all" (["go", "Go", "GO", "Chess"].map (Game.named · 1))]
    let p := empty.run edits
    let stored (p : Picks) : Picks := ⟨p.members.reverse, List.nodup_reverse.mpr p.nodup⟩
    1 ≤ 2 ∧ 2 ≤ 3 ∧ 3 ≤ p.count ∧ (∀ p, (stored p).Same p) ∧
      p.names = ["Chess", "GO", "Go", "go"] ∧ RowsAsked (trimChars " 02-3".toList) 2 3 ∧
      (∃ q, (stored p).remove " 02-3" = .ok q ∧ q.names = ["Chess", "go"]) ∧
      ∃ q, ["2", "2"].foldlM (fun now selector => (stored now).remove selector) p = .ok q ∧
        q.names = ["Chess", "go"] := by
  intro edits p stored
  have hcount : 3 ≤ p.count := by decide
  have hstored : ∀ p, (stored p).Same p := fun p name => List.mem_reverse
  have hnames : p.names = ["Chess", "GO", "Go", "go"] := List.mergeSort_of_pairwise (by decide)
  have hrows : RowsAsked (trimChars " 02-3".toList) 2 3 :=
    .range (by decide : IsNumeral ['0', '2']) (by decide : IsNumeral ['3'])
  obtain ⟨-, hrow, hall, hone⟩ :=
    remove_rows_cuts_names edits (by decide : 1 ≤ 2) (by decide) hcount hstored
  obtain ⟨q, hq, hrest, -⟩ := hall _ hrows
  obtain ⟨r, hr, hrest'⟩ := hone _ hrow
  rw [hnames] at hrest hrest'
  exact ⟨by decide, by decide, hcount, hstored, hnames, hrows, ⟨q, hq, hrest⟩, r, hr, hrest'⟩

end Picks
end GameShelf
