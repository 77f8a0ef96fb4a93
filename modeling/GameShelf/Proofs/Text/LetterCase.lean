import GameShelf.Proofs.Text.Trim
import GameShelf.Text.Fold

namespace GameShelf

def IsLetter (c : Char) : Prop := 65 ≤ c.toNat ∧ c.toNat ≤ 90 ∨ 97 ≤ c.toNat ∧ c.toNat ≤ 122

instance (c : Char) : Decidable (IsLetter c) :=
  inferInstanceAs (Decidable (65 ≤ c.toNat ∧ c.toNat ≤ 90 ∨ 97 ≤ c.toNat ∧ c.toNat ≤ 122))

/-- What is the same of each capital and its small letter is the same of every character and that
character lowered. -/
theorem apply_toLower {α : Type} {f : Char → α}
    (h : ∀ i < 26, f (Char.ofNat (65 + i)).toLower = f (Char.ofNat (65 + i))) (c : Char) :
    f c.toLower = f c := by
  by_cases hu : 65 ≤ c.toNat ∧ c.toNat ≤ 90
  · have hc : Char.ofNat (65 + (c.toNat - 65)) = c := by
      rw [Nat.add_sub_cancel' hu.1, Char.ofNat_toNat]
    have hi := h (c.toNat - 65) (by omega)
    rwa [hc] at hi
  · rw [toLower_eq_self hu]

theorem toLower_toLower (c : Char) : c.toLower.toLower = c.toLower :=
  apply_toLower (f := Char.toLower) (by decide) c

theorem isBlank_toLower (c : Char) : isBlank c.toLower = isBlank c :=
  apply_toLower (by decide) c

theorem isDigit_toLower (c : Char) : c.toLower.isDigit = c.isDigit :=
  apply_toLower (f := Char.isDigit) (by decide) c

theorem lower_toLower (c : Char) : lower c.toLower = lower c :=
  apply_toLower (by decide) c

theorem isCased_toLower (c : Char) : isCased c.toLower = isCased c :=
  apply_toLower (by decide) c

theorem isCaseIgnorable_toLower (c : Char) : isCaseIgnorable c.toLower = isCaseIgnorable c :=
  apply_toLower (by decide) c

theorem isLetter_toLower (c : Char) : IsLetter c.toLower ↔ IsLetter c :=
  decide_eq_decide.mp (apply_toLower (f := fun c => decide (IsLetter c)) (by decide) c)

theorem letter_of_toLower {c : Char} (h : 97 ≤ c.toLower.toNat ∧ c.toLower.toNat ≤ 122) :
    65 ≤ c.toNat ∧ c.toNat ≤ 90 ∨ 97 ≤ c.toNat ∧ c.toNat ≤ 122 :=
  (isLetter_toLower c).mp (.inr h)

theorem toLower_eq_iff {c d : Char} (hd : ¬IsLetter d) : c.toLower = d ↔ c = d := by
  constructor
  · rintro rfl
    have hc : ¬IsLetter c := mt (isLetter_toLower c).mpr hd
    exact (toLower_eq_self fun hu => hc (.inl hu)).symm
  · rintro rfl
    exact toLower_eq_self fun hu => hd (.inl hu)

section Texts

theorem toList_toLower (s : String) : s.toLower.toList = s.toList.map Char.toLower :=
  String.toList_map

theorem ofList_map_toLower (cs : List Char) :
    String.ofList (cs.map Char.toLower) = (String.ofList cs).toLower := by
  rw [← String.toList_inj, toList_toLower, String.toList_ofList, String.toList_ofList]

theorem asciiEq_iff {a b : String} : asciiEq a b = true ↔ a.toLower = b.toLower := by
  rw [asciiEq, beq_iff_eq, ← toList_toLower, ← toList_toLower, String.toList_inj]

theorem map_toLower_toLower (cs : List Char) :
    (cs.map Char.toLower).map Char.toLower = cs.map Char.toLower := by
  rw [List.map_map]
  exact List.map_congr_left fun c _ => toLower_toLower c

theorem toLower_toLower_string (s : String) : s.toLower.toLower = s.toLower := by
  rw [← String.toList_inj, toList_toLower, toList_toLower, map_toLower_toLower]

theorem asciiEq_toLower (a b : String) : asciiEq a b.toLower = asciiEq a b := by
  rw [asciiEq, toList_toLower, map_toLower_toLower]
  rfl

theorem takeWhile_map_toLower {p : Char → Bool} (h : ∀ c, p c.toLower = p c) (cs : List Char) :
    (cs.map Char.toLower).takeWhile p = (cs.takeWhile p).map Char.toLower := by
  rw [List.takeWhile_map]
  exact congrArg (fun q => (cs.takeWhile q).map Char.toLower) (funext h)

theorem dropWhile_map_toLower {p : Char → Bool} (h : ∀ c, p c.toLower = p c) (cs : List Char) :
    (cs.map Char.toLower).dropWhile p = (cs.dropWhile p).map Char.toLower := by
  rw [List.dropWhile_map]
  exact congrArg (fun q => (cs.dropWhile q).map Char.toLower) (funext h)

theorem all_map_toLower {p : Char → Bool} (h : ∀ c, p c.toLower = p c) (cs : List Char) :
    (cs.map Char.toLower).all p = cs.all p := by
  rw [List.all_map]
  exact congrArg cs.all (funext h)

theorem trimChars_map_toLower (cs : List Char) :
    trimChars (cs.map Char.toLower) = (trimChars cs).map Char.toLower := by
  rw [trimChars, trimBy, dropWhile_map_toLower isBlank_toLower, ← List.map_reverse,
    dropWhile_map_toLower isBlank_toLower, ← List.map_reverse]
  rfl

theorem trim_toLower (s : String) : trim s.toLower = (trim s).toLower := by
  rw [trim, toList_toLower, trimChars_map_toLower, ofList_map_toLower]
  rfl

theorem splitOn_map_toLower {sep : Char} (h : ¬IsLetter sep) (cs : List Char) :
    (cs.map Char.toLower).splitOn sep = (cs.splitOn sep).map (List.map Char.toLower) := by
  induction cs with
  | nil => rfl
  | cons c cs ih =>
    have hc : (c.toLower == sep) = (c == sep) := by
      rw [Bool.eq_iff_iff, beq_iff_eq, beq_iff_eq]
      exact toLower_eq_iff h
    obtain ⟨first, rest, hs⟩ := List.exists_cons_of_ne_nil (List.splitOn_ne_nil sep cs)
    rw [List.map_cons, List.splitOn_cons_eq_if_modifyHead, List.splitOn_cons_eq_if_modifyHead, hc,
      ih, hs]
    split
    · rfl
    · rfl

theorem isPrefixOf_map_toLower {pattern : List Char} (h : ∀ c ∈ pattern, ¬IsLetter c)
    (cs : List Char) : pattern.isPrefixOf (cs.map Char.toLower) = pattern.isPrefixOf cs := by
  induction pattern generalizing cs with
  | nil => rfl
  | cons d pattern ih =>
    cases cs with
    | nil => rfl
    | cons c cs =>
      have hd : (d == c.toLower) = (d == c) := by
        rw [Bool.eq_iff_iff, beq_iff_eq, beq_iff_eq, eq_comm, eq_comm (a := d)]
        exact toLower_eq_iff (h d List.mem_cons_self)
      rw [List.map_cons, List.isPrefixOf_cons_cons, List.isPrefixOf_cons_cons, hd,
        ih (fun e he => h e (List.mem_cons_of_mem d he))]

theorem occursIn_map_toLower {pattern : List Char} (h : ∀ c ∈ pattern, ¬IsLetter c)
    (cs : List Char) : occursIn pattern (cs.map Char.toLower) = occursIn pattern cs := by
  induction cs with
  | nil => rfl
  | cons c cs ih =>
    have hp := isPrefixOf_map_toLower h (c :: cs)
    rw [List.map_cons] at hp
    rw [List.map_cons, occursIn, occursIn, hp, ih]

end Texts

section Folding

theorem foldChars_map_toLower (cs : List Char) :
    foldChars (cs.map Char.toLower) = foldChars cs := by
  rw [foldChars, List.flatMap_map]
  exact congrArg cs.flatMap (funext lower_toLower)

theorem foldEq_toLower (a b : String) : foldEq a b.toLower = foldEq a b := by
  rw [Bool.eq_iff_iff, foldEq_iff, foldEq_iff, toList_toLower, foldChars_map_toLower]

theorem meetsCased_map_toLower (cs : List Char) :
    meetsCased (cs.map Char.toLower) = meetsCased cs := by
  rw [meetsCased, meetsCased, dropWhile_map_toLower isCaseIgnorable_toLower]
  cases cs.dropWhile isCaseIgnorable with
  | nil => rfl
  | cons c _ => exact isCased_toLower c

/-- Also the letters around a sigma count the same in either case. -/
theorem lowercaseAfter_map_toLower (before cs : List Char) :
    lowercaseAfter (before.map Char.toLower) (cs.map Char.toLower) = lowercaseAfter before cs := by
  induction cs generalizing before with
  | nil => rfl
  | cons c cs ih =>
    -- No letter lowers to a sigma, and one next to it has case in both forms.
    have hsigma : c.toLower = 'Σ' ↔ c = 'Σ' := toLower_eq_iff (by decide)
    have hends : endsWord (before.map Char.toLower) (cs.map Char.toLower) = endsWord before cs := by
      rw [endsWord, meetsCased_map_toLower, meetsCased_map_toLower]
      rfl
    have hrest := ih (c :: before)
    rw [List.map_cons] at hrest
    rw [List.map_cons, lowercaseAfter, lowercaseAfter, hends, lower_toLower, hrest]
    simp only [hsigma]

theorem containsIgnoringCase_toLower (text pattern : String) :
    containsIgnoringCase text pattern.toLower = containsIgnoringCase text pattern := by
  have h : lowercaseChars pattern.toLower.toList = lowercaseChars pattern.toList := by
    rw [toList_toLower]
    exact lowercaseAfter_map_toLower [] pattern.toList
  rw [containsIgnoringCase, h]
  rfl

end Folding

end GameShelf
