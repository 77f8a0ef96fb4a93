import GameShelf.Proofs.Text.LetterCase
import GameShelf.Proofs.Text.Numeral
import GameShelf.Proofs.Text.Trim

namespace GameShelf

def Visible (c : Char) : Prop := 33 ≤ c.toNat ∧ c.toNat ≤ 126

instance (c : Char) : Decidable (Visible c) :=
  inferInstanceAs (Decidable (33 ≤ c.toNat ∧ c.toNat ≤ 126))

theorem visible_of_isDigit {c : Char} (h : c.isDigit = true) : Visible c := by
  have hd := toNat_of_isDigit h
  exact ⟨by omega, by omega⟩

theorem visible_of_isNumberChar {c : Char} (h : isNumberChar c = true) : Visible c := by
  rcases Bool.or_eq_true_iff.mp h with h | h
  · exact visible_of_isDigit h
  · have hall : ['-', '.', 'i', 'n', 'f', 'N', 'a'].all (decide <| Visible ·) = true := by decide
    simpa using List.all_eq_true.mp hall c (List.contains_iff_mem.mp h)

theorem visible_of_splitSign {cs : List Char} (h : ∀ c ∈ (splitSign cs).2, Visible c) :
    ∀ c ∈ cs, Visible c := by
  unfold splitSign at h
  split at h
  · exact List.forall_mem_cons.mpr ⟨by decide, h⟩
  · exact List.forall_mem_cons.mpr ⟨by decide, h⟩
  · exact h

theorem visible_of_readExponent? {cs : List Char} {e : Int} (h : readExponent? cs = some e) :
    ∀ c ∈ cs, Visible c := by
  apply visible_of_splitSign
  unfold readExponent? at h
  simp only [Option.ite_none_left_eq_some, Bool.or_eq_true, Bool.not_eq_true', not_or] at h
  have hall : (splitSign cs).2.all Char.isDigit = true := by simpa using h.1.2
  exact fun c hc => visible_of_isDigit (List.all_eq_true.mp hall c hc)

namespace Decimal

theorem visible_of_splitFraction {cs : List Char} (h : ∀ c ∈ (splitFraction cs).2, Visible c) :
    ∀ c ∈ cs, Visible c := by
  unfold splitFraction at h
  split at h
  · next cs =>
    refine List.forall_mem_cons.mpr ⟨by decide, fun c hc => ?_⟩
    rw [← List.takeWhile_append_dropWhile (p := Char.isDigit) (l := cs)] at hc
    rcases List.mem_append.mp hc with hc | hc
    · exact visible_of_isDigit (List.mem_takeWhile_imp hc)
    · exact h c hc
  · exact h

theorem visible_of_readUnsigned? {negative : Bool} {cs : List Char} {d : Decimal}
    (h : readUnsigned? negative cs = some d) : ∀ c ∈ cs, Visible c := by
  have hrest : ∀ c ∈ (splitFraction (cs.dropWhile Char.isDigit)).2, Visible c := by
    unfold readUnsigned? at h
    simp only [Option.ite_none_left_eq_some] at h
    obtain ⟨-, h⟩ := h
    split at h
    · next hnil =>
      rw [hnil]
      exact fun c hc => absurd hc List.not_mem_nil
    · next e rest hcons =>
      obtain ⟨he, h⟩ := Option.ite_none_right_eq_some.mp h
      obtain ⟨exponent, hexp, -⟩ := Option.map_eq_some_iff.mp h
      rw [hcons]
      refine List.forall_mem_cons.mpr ⟨?_, visible_of_readExponent? hexp⟩
      have he' : e = 'e' ∨ e = 'E' := by simpa using he
      rcases he' with rfl | rfl <;> decide
  intro c hc
  rw [← List.takeWhile_append_dropWhile (p := Char.isDigit) (l := cs)] at hc
  rcases List.mem_append.mp hc with hc | hc
  · exact visible_of_isDigit (List.mem_takeWhile_imp hc)
  · exact visible_of_splitFraction hrest c hc

end Decimal

namespace Binary64

theorem visible_of_special? {cs : List Char} {m : Nat} (h : special? cs = some m) :
    ∀ c ∈ cs, Visible c := by
  have hlow : (cs.map Char.toLower).all (fun c => 97 ≤ c.toNat && c.toNat ≤ 122) = true := by
    have hname : ∀ name : String, String.ofList (cs.map Char.toLower) = name →
        cs.map Char.toLower = name.toList := by
      rintro _ rfl
      rw [String.toList_ofList]
    unfold special? at h
    split at h
    · next he =>
      rw [hname _ he]
      decide
    · next he =>
      rw [hname _ he]
      decide
    · next he =>
      rw [hname _ he]
      decide
    · cases h
  intro c hc
  have hl := List.all_eq_true.mp hlow c.toLower (List.mem_map_of_mem hc)
  have hletter := letter_of_toLower (by simpa using hl)
  exact ⟨by omega, by omega⟩

theorem visible_of_read? {s : String} {x : Binary64} (h : read? s = some x) :
    ∀ c ∈ s.toList, Visible c := by
  apply visible_of_splitSign
  unfold read? at h
  simp only at h
  split at h
  · next d hd => exact Decimal.visible_of_readUnsigned? hd
  · obtain ⟨m, hm, -⟩ := Option.map_eq_some_iff.mp h
    exact visible_of_special? hm

end Binary64
section LetterCase

theorem map_toLower_of_isDigit {ds : List Char} (h : ∀ c ∈ ds, c.isDigit = true) :
    ds.map Char.toLower = ds :=
  (List.map_congr_left fun c hc => toLower_of_isDigit (h c hc)).trans (List.map_id' ds)

theorem takeWhile_isDigit_map_toLower (cs : List Char) :
    (cs.map Char.toLower).takeWhile Char.isDigit = cs.takeWhile Char.isDigit := by
  rw [takeWhile_map_toLower isDigit_toLower]
  exact map_toLower_of_isDigit fun c hc => List.mem_takeWhile_imp hc

theorem splitSign_map_toLower (cs : List Char) :
    splitSign (cs.map Char.toLower) = ((splitSign cs).1, (splitSign cs).2.map Char.toLower) := by
  cases cs with
  | nil => rfl
  | cons c cs =>
    by_cases hminus : c = '-'
    · rw [hminus]
      rfl
    · by_cases hplus : c = '+'
      · rw [hplus]
        rfl
      · have hm : c.toLower ≠ '-' := mt (toLower_eq_iff (by decide)).mp hminus
        have hp : c.toLower ≠ '+' := mt (toLower_eq_iff (by decide)).mp hplus
        rw [List.map_cons, splitSign_cons hm hp, splitSign_cons hminus hplus]
        rfl

theorem readExponent?_map_toLower (cs : List Char) :
    readExponent? (cs.map Char.toLower) = readExponent? cs := by
  simp only [readExponent?, splitSign_map_toLower, List.isEmpty_map,
    all_map_toLower isDigit_toLower]
  by_cases h : (splitSign cs).2.all Char.isDigit = true
  · rw [map_toLower_of_isDigit (List.all_eq_true.mp h)]
  · simp [h]

namespace Decimal

theorem splitFraction_cons {c : Char} (h : c ≠ '.') (cs : List Char) :
    splitFraction (c :: cs) = ([], c :: cs) := by
  unfold splitFraction
  split
  · next he => exact absurd (List.cons.inj he).1 h
  · rfl

theorem splitFraction_map_toLower (cs : List Char) :
    splitFraction (cs.map Char.toLower) =
      ((splitFraction cs).1, (splitFraction cs).2.map Char.toLower) := by
  cases cs with
  | nil => rfl
  | cons c cs =>
    by_cases hpoint : c = '.'
    · rw [hpoint]
      exact Prod.ext (takeWhile_isDigit_map_toLower cs) (dropWhile_map_toLower isDigit_toLower cs)
    · have h : c.toLower ≠ '.' := mt (toLower_eq_iff (by decide)).mp hpoint
      rw [List.map_cons, splitFraction_cons h, splitFraction_cons hpoint]
      rfl

theorem readUnsigned?_map_toLower (negative : Bool) (cs : List Char) :
    readUnsigned? negative (cs.map Char.toLower) = readUnsigned? negative cs := by
  have he : ∀ e : Char, (e.toLower = 'e' || e.toLower = 'E') = (e = 'e' || e = 'E') :=
    apply_toLower (f := fun e => e = 'e' || e = 'E') (by decide)
  simp only [readUnsigned?, takeWhile_isDigit_map_toLower,
    dropWhile_map_toLower isDigit_toLower, splitFraction_map_toLower]
  cases (splitFraction (cs.dropWhile Char.isDigit)).2 with
  | nil => rfl
  | cons e rest => simp only [List.map_cons, he, readExponent?_map_toLower]

end Decimal

namespace Binary64

theorem special?_map_toLower (cs : List Char) : special? (cs.map Char.toLower) = special? cs := by
  simp only [special?, map_toLower_toLower]

theorem read?_toLower (s : String) : read? s.toLower = read? s := by
  simp only [read?, toList_toLower, splitSign_map_toLower, Decimal.readUnsigned?_map_toLower,
    special?_map_toLower]

end Binary64

end LetterCase

end GameShelf
