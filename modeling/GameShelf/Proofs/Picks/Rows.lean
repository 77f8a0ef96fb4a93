import GameShelf.Picks
import GameShelf.Proofs.Text.Numeral
import Mathlib.Data.List.TakeWhile

namespace GameShelf

/-- The selectors that ask for the rows from `first` to `last`: a number, or two with a dash. -/
inductive RowsAsked : List Char → Nat → Nat → Prop
  | position {ds : List Char} (h : IsNumeral ds) : RowsAsked ds (digitsValue ds) (digitsValue ds)
  | range {ds es : List Char} (hd : IsNumeral ds) (he : IsNumeral es) :
    RowsAsked (ds ++ '-' :: es) (digitsValue ds) (digitsValue es)

theorem RowsAsked.ne_nil {cs : List Char} {first last : Nat} (h : RowsAsked cs first last) :
    cs ≠ [] := by
  cases h with
  | position hd => exact hd.1
  | range hd he => simp

theorem RowsAsked.isDigit_of_head? {cs : List Char} {first last : Nat} {c : Char}
    (h : RowsAsked cs first last) (hc : c ∈ cs.head?) : c.isDigit = true := by
  cases h with
  | position hd => exact hd.2 c (List.mem_of_mem_head? hc)
  | range hd he =>
    obtain ⟨d, ds, rfl, hdigit⟩ := hd.exists_cons
    obtain rfl : d = c := by simpa using hc
    exact hdigit

theorem rowsAsked_toString (n : Nat) : RowsAsked (toString n).toList n n := by
  have h := RowsAsked.position (isNumeral_toDigits n)
  rw [digitsValue_toDigits] at h
  simpa [Nat.toString_eq_repr, Nat.toList_repr] using h

namespace Selector

def resolve (action : PickAction) (raw : String) (source : List String) :
    Except SelectorError (List String) := do
  let (selector, text) ← readSelector action raw
  selector.pick text source

theorem resolve_of_ne_nil {raw : String} (h : trimChars raw.toList ≠ []) (action : PickAction)
    (source : List String) :
    resolve action raw source =
      (ofTrimmed (trimChars raw.toList)).pick (String.ofList (trimChars raw.toList)) source := by
  simp [resolve, readSelector, h, bind, Except.bind]

theorem map_resolve (action : PickAction) (raw : String) (source : List String)
    (f : List String → Picks) :
    (resolve action raw source).map f = (do
      let (selector, text) ← readSelector action raw
      return f (← selector.pick text source)) := by
  unfold resolve
  cases readSelector action raw with
  | error e => rfl
  | ok read =>
    obtain ⟨selector, text⟩ := read
    cases hp : selector.pick text source <;>
      simp [bind, Except.bind, hp, Except.map, pure, Except.pure]

theorem not_all_of_isDigit {c : Char} (cs : List Char) (h : c.isDigit = true) :
    asciiEq (String.ofList (c :: cs)) "all" = false := by
  have hc : c ≠ 'a' := ne_of_isDigit h (by decide)
  simp [asciiEq, toLower_of_isDigit h, hc]

theorem ofTrimmed_position {ds : List Char} (h : IsNumeral ds) :
    ofTrimmed ds = .position (digitsValue ds) := by
  obtain ⟨hne, hd⟩ := h
  obtain ⟨c, cs, rfl⟩ := List.exists_cons_of_ne_nil hne
  have ht : (c :: cs).takeWhile Char.isDigit = c :: cs := List.takeWhile_eq_self_iff.mpr hd
  have hr : (c :: cs).dropWhile Char.isDigit = [] := List.dropWhile_eq_nil_iff.mpr hd
  have ha := not_all_of_isDigit cs (hd c (by simp))
  simp only [ofTrimmed, ht, hr, ha, List.isEmpty_cons, Bool.false_eq_true, if_false]

theorem ofTrimmed_range {ds es : List Char} (hd : IsNumeral ds) (he : IsNumeral es) :
    ofTrimmed (ds ++ '-' :: es) = .range (digitsValue ds) (digitsValue es) := by
  obtain ⟨hne, hd⟩ := hd
  obtain ⟨c, cs, rfl⟩ := List.exists_cons_of_ne_nil hne
  have ht := takeWhile_isDigit_append hd (by decide : '-'.isDigit = false) es
  have hr := dropWhile_isDigit_append hd (by decide : '-'.isDigit = false) es
  have ha : asciiEq (String.ofList ((c :: cs) ++ '-' :: es)) "all" = false :=
    not_all_of_isDigit (cs ++ '-' :: es) (hd c (by simp))
  have hv : (es.isEmpty || !es.all Char.isDigit) = false := by
    simp [he.1, List.all_eq_true.mpr he.2]
  simp only [ofTrimmed, ht, hr, ha, hv, List.isEmpty_cons, Bool.false_eq_true, if_false]

theorem pick_rows {cs : List Char} {first last : Nat} (h : RowsAsked cs first last) (text : String)
    (source : List String) :
    if 1 ≤ first ∧ first ≤ last ∧ last ≤ source.length then
      (ofTrimmed cs).pick text source = .ok ((source.drop (first - 1)).take (last + 1 - first))
    else ∃ e, (ofTrimmed cs).pick text source = .error e := by
  cases h with
  | position hd =>
    rw [ofTrimmed_position hd, pick]
    generalize digitsValue cs = n
    by_cases hn : 1 ≤ n ∧ n ≤ n ∧ n ≤ source.length
    · have hl : n - 1 < source.length := by omega
      have ht : (source.drop (n - 1)).take (n + 1 - n) = [source[n - 1]] := by
        rw [Nat.add_sub_cancel_left, List.drop_eq_getElem_cons hl, List.take_succ_cons,
          List.take_zero]
      rw [if_pos hn, if_neg (by omega), List.getElem?_eq_getElem hl, ht]
    · rw [if_neg hn]
      by_cases hz : n = 0
      · exact ⟨_, if_pos hz⟩
      · rw [if_neg hz, List.getElem?_eq_none (by omega)]
        exact ⟨_, rfl⟩
  | range hd he =>
    rw [ofTrimmed_range hd he, pick]
    split
    · next hr => rw [if_neg (by omega)]
    · next hr => exact ⟨_, if_pos (by omega)⟩

end Selector

namespace Picks

theorem add_eq_resolve (p : Picks) (raw : String) (candidates : List String) :
    p.add raw candidates = (Selector.resolve .add raw candidates).map p.insertAll :=
  (Selector.map_resolve .add raw candidates p.insertAll).symm

theorem remove_eq_resolve (p : Picks) (raw : String) :
    p.remove raw = (Selector.resolve .remove raw p.names).map p.eraseAll :=
  (Selector.map_resolve .remove raw p.names p.eraseAll).symm

end Picks
end GameShelf
