import GameShelf.Proofs.Command.Operands
import GameShelf.Proofs.Text.Numeral
import Mathlib.Data.List.TakeWhile

namespace GameShelf

/-- A word that is part of an expression wherever it stands: one without a dash in front, or a dash
and digits. -/
def IsOperand (word : String) : Prop := Undashed word ∨ IsNumeral word.toList.tail

instance (word : String) : Decidable (IsOperand word) :=
  inferInstanceAs (Decidable (Undashed word ∨ IsNumeral word.toList.tail))

theorem IsOperand.ne_dashes {word : String} (h : IsOperand word) : word ≠ "--" := by
  rintro rfl
  revert h
  decide

theorem IsOperand.dash_numeral {word : String} (h : IsOperand word) (hu : ¬Undashed word) :
    ∃ ds, word.toList = '-' :: ds ∧ IsNumeral ds := by
  have hd := h.resolve_left hu
  obtain ⟨ds, hw⟩ := List.head?_eq_some_iff.mp (not_not.mp hu)
  rw [hw] at hd
  exact ⟨ds, hw, hd⟩

/-- `Interleaves words sort descending line`: on the line the words of an expression stand in their
order, with at most one column to sort on and at most one flag for the direction anywhere among
them. -/
inductive Interleaves : List String → Option String → Bool → List String → Prop where
  | nil : Interleaves [] none false []
  | word {word : String} {words line : List String} {sort : Option String} {descending : Bool}
      (hword : IsOperand word) (rest : Interleaves words sort descending line) :
      Interleaves (word :: words) sort descending (word :: line)
  | sort {option column : String} {words line : List String} {descending : Bool}
      (hoption : option = "--sort" ∨ option = "-s") (hcolumn : Undashed column)
      (rest : Interleaves words none descending line) :
      Interleaves words (some column) descending (option :: column :: line)
  | descending {flag : String} {words line : List String} {sort : Option String}
      (hflag : flag = "--desc" ∨ flag = "-d") (rest : Interleaves words sort false line) :
      Interleaves words sort true (flag :: line)

namespace Arguments

theorem isNumber_of_isNumeral {ds : List Char} (h : IsNumeral ds) : isNumber ds = true := by
  have htake : ds.takeWhile Char.isDigit = ds := List.takeWhile_eq_self_iff.mpr h.2
  have hdrop : ds.dropWhile Char.isDigit = [] := List.dropWhile_eq_nil_iff.mpr h.2
  rw [isNumber, htake, hdrop]
  simpa [Decimal.splitFraction] using h.1

theorem step_dash_numeral {g : Grammar} (hg : g.negativeNumbers = true) (s : Arguments)
    {word : String} {ds : List Char} (hw : word.toList = '-' :: ds) (hd : IsNumeral ds) :
    s.step g word = s.plain g word := by
  cases ds with
  | nil => exact absurd rfl hd.1
  | cons d ds =>
    have hdash : d ≠ '-' := ne_of_isDigit (hd.2 d List.mem_cons_self) (by decide)
    unfold step
    split
    · next he =>
      rw [hw] at he
      exact absurd (List.cons.inj (List.cons.inj he).2).1 hdash
    · next he =>
      rw [hw] at he
      rw [← (List.cons.inj he).2, hg, isNumber_of_isNumeral hd]
      rfl
    · rfl

theorem step_of_isOperand {g : Grammar} (hg : g.negativeNumbers = true) (s : Arguments)
    {word : String} (h : IsOperand word) : s.step g word = s.plain g word := by
  by_cases hu : Undashed word
  · exact step_undashed g s hu
  · obtain ⟨ds, hw, hd⟩ := h.dash_numeral hu
    exact step_dash_numeral hg s hw hd

theorem settle_of_pending {s : Arguments} (h : s.pending = none) : s.settle = .ok s := by
  rw [settle, h]

theorem settle_of_value {s : Arguments} {slot : Slot} {value : String}
    (hp : s.pending = some (slot, some value)) (hslot : slot.blankAllowed = true)
    (hnone : s.has slot.key = false) :
    s.settle = .ok { s with pending := none, settings := s.settings ++ [(slot.key, value)] } := by
  rw [settle, hp]
  simp [hnone, hslot]

theorem pending_of_settle {s t : Arguments} (h : s.settle = .ok t) : t.pending = none := by
  unfold settle at h
  split at h
  · next hp =>
    cases h
    exact hp
  · cases h
  · split at h
    · cases h
    · split at h
      · cases h
      · cases h
        rfl

def withSetting (t : Arguments) (key value : String) : Arguments :=
  { t with settings := t.settings ++ [(key, value)] }

theorem get?_withSetting (t : Arguments) (key value other : String) :
    (t.withSetting key value).get? other =
      (t.get? other).or (if other = key then some value else none) := by
  rw [get?, withSetting, List.lookup_append]
  by_cases hk : other = key
  · simp [hk, get?]
  · simp [hk, get?, List.lookup_cons, beq_eq_false_iff_ne.mpr hk]

theorem has_withSetting (t : Arguments) (key value other : String) :
    (t.withSetting key value).has other = (t.has other || key == other) := by
  rw [has, withSetting, List.any_append]
  simp [has]

theorem cluster_nil_bind (g : Grammar) (reacted : Except Refusal Arguments) :
    (do cluster g (← reacted) []) = reacted := by
  cases reacted with
  | error refusal => rfl
  | ok s => rfl

open Command (filterGrammar sortSlot)

section Steps

variable {s t : Arguments} (hs : s.settle = .ok t)
include hs

theorem settle_withWord (word : String) :
    (t.withWord word).settle = .ok (t.withWord word) := by
  have hpending : t.pending = none := pending_of_settle hs
  exact settle_of_pending hpending

theorem settle_withSetting (key value : String) :
    (t.withSetting key value).settle = .ok (t.withSetting key value) := by
  have hpending : t.pending = none := pending_of_settle hs
  exact settle_of_pending hpending

theorem readOn_word {word : String} (hw : IsOperand word) (line : List String) :
    readOn filterGrammar s (word :: line) = readOn filterGrammar (t.withWord word) line := by
  apply readOn_cons hw.ne_dashes
  rw [step_of_isOperand rfl s hw, plain_of_settle rfl hs]

theorem step_sort {option : String} (ho : option = "--sort" ∨ option = "-s") :
    s.step filterGrammar option = .ok { t with pending := some (sortSlot, none) } := by
  have hreact : ∀ long, s.react filterGrammar ⟨"sort", some 's', .take sortSlot⟩ long =
      .ok { t with pending := some (sortSlot, none) } := by
    intro long
    rw [react, hs]
    rfl
  rcases ho with rfl | rfl
  · exact hreact true
  · exact (cluster_nil_bind filterGrammar _).trans (hreact false)

/-- The word after the option is its value, and what follows finds it set. -/
theorem readOn_sort {option column : String} (ho : option = "--sort" ∨ option = "-s")
    (hc : Undashed column) (hnone : t.has "sort" = false) (line : List String) :
    ∃ u, readOn filterGrammar s (option :: column :: line) = readOn filterGrammar u line ∧
      u.settle = .ok (t.withSetting "sort" column) := by
  have hdashes : option ≠ "--" := by rcases ho with rfl | rfl <;> decide
  have hvalue : step filterGrammar { t with pending := some (sortSlot, none) } column =
      .ok { t with pending := some (sortSlot, some column) } := by
    rw [step_undashed _ _ hc]
    rfl
  refine ⟨{ t with pending := some (sortSlot, some column) }, ?_, ?_⟩
  · rw [readOn_cons hdashes (step_sort hs ho), readOn_cons (ne_dashes hc) hvalue]
  · rw [settle_of_value rfl rfl hnone, withSetting, pending_of_settle hs]
    rfl

theorem step_descending {flag : String} (hf : flag = "--desc" ∨ flag = "-d")
    (hnone : t.has "desc" = false) :
    s.step filterGrammar flag = .ok (t.withSetting "desc" "") := by
  have hreact : ∀ long, s.react filterGrammar ⟨"desc", some 'd', .raise⟩ long =
      .ok (t.withSetting "desc" "") := by
    intro long
    rw [react, hs]
    change (if t.has "desc" then _ else _) = _
    rw [hnone]
    rfl
  rcases hf with rfl | rfl
  · exact hreact true
  · exact (cluster_nil_bind filterGrammar _).trans (hreact false)

theorem readOn_descending {flag : String} (hf : flag = "--desc" ∨ flag = "-d")
    (hnone : t.has "desc" = false) (line : List String) :
    readOn filterGrammar s (flag :: line) =
      readOn filterGrammar (t.withSetting "desc" "") line := by
  have hdashes : flag ≠ "--" := by rcases hf with rfl | rfl <;> decide
  exact readOn_cons hdashes (step_descending hs hf hnone) line

end Steps

structure Adds (words : List String) (sort : Option String) (descending : Bool)
    (t u : Arguments) : Prop where
  words : u.words = t.words ++ words
  sort : u.get? "sort" = (t.get? "sort").or sort
  descending : u.has "desc" = (t.has "desc" || descending)

/-- The line is read from a state in which a value may still have to be settled: the invariant is
what it settles to. -/
theorem readOn_interleaves {words line : List String} {sort : Option String} {descending : Bool}
    (h : Interleaves words sort descending line) {s t : Arguments} (hs : s.settle = .ok t)
    (hsort : sort ≠ none → t.has "sort" = false)
    (hdesc : descending = true → t.has "desc" = false) :
    ∃ u, readOn filterGrammar s line = .ok u ∧ Adds words sort descending t u := by
  induction h generalizing s t with
  | nil => exact ⟨t, hs, by simp, by simp, by simp⟩
  | @word word words line sort descending hword rest ih =>
    obtain ⟨u, hu, hadds⟩ := ih (settle_withWord hs word) hsort hdesc
    refine ⟨u, ?_, ?_, hadds.sort, hadds.descending⟩
    · rw [readOn_word hs hword, hu]
    · rw [hadds.words, withWord, List.append_assoc]
      rfl
  | @sort option column words line descending hoption hcolumn rest ih =>
    have hnone : t.has "sort" = false := hsort (Option.some_ne_none column)
    obtain ⟨v, hv, hsettled⟩ := readOn_sort hs hoption hcolumn hnone line
    have hsame : (t.withSetting "sort" column).has "desc" = t.has "desc" := by
      rw [has_withSetting]
      exact Bool.or_false _
    obtain ⟨u, hu, hadds⟩ := ih hsettled (absurd rfl) fun hd => hsame.trans (hdesc hd)
    refine ⟨u, hv.trans hu, hadds.words, ?_, ?_⟩
    · rw [hadds.sort, get?_withSetting, if_pos rfl, Option.or_none]
    · rw [hadds.descending, hsame]
  | @descending flag words line sort hflag rest ih =>
    have hsame : (t.withSetting "desc" "").has "sort" = t.has "sort" := by
      rw [has_withSetting]
      exact Bool.or_false _
    obtain ⟨u, hu, hadds⟩ := ih (settle_withSetting hs "desc" "")
      (fun hne => hsame.trans (hsort hne)) (by simp)
    refine ⟨u, ?_, hadds.words, ?_, ?_⟩
    · rw [readOn_descending hs hflag (hdesc rfl), hu]
    · rw [hadds.sort, get?_withSetting, if_neg (by decide), Option.or_none]
    · rw [hadds.descending, has_withSetting]
      simp

end Arguments

namespace Command

/-- However options and words are mixed, the words are the expression in their order, and column and
direction are those of the options, or the name and ascending where there are none. -/
theorem options_stand_anywhere {words line : List String} {sort : Option String}
    {descending : Bool} (h : Interleaves words sort descending line) :
    read ("filter" :: line) = .ok (.filter words (sort.getD "name") descending) := by
  obtain ⟨u, hu, hadds⟩ := Arguments.readOn_interleaves h (s := ⟨[], [], none⟩) rfl (fun _ => rfl)
    fun _ => rfl
  change readFilter line = _
  have hwords : u.words = words := hadds.words
  have hsort : u.get? "sort" = sort := hadds.sort
  have hdesc : u.has "desc" = descending := hadds.descending
  rw [readFilter, Arguments.read, hu, ← hwords, ← hsort, ← hdesc]
  rfl

theorem options_stand_anywhere_around_negative_number :
    Interleaves ["rating", ">", "-1", ",", "year>2000"] (some "year") true
      ["-d", "rating", ">", "--sort", "year", "-1", ",", "year>2000"] ∧
    Interleaves ["-05"] none false ["-05"] ∧
    read ["filter", "-d", "rating", ">", "--sort", "year", "-1", ",", "year>2000"] =
      .ok (.filter ["rating", ">", "-1", ",", "year>2000"] "year" true) ∧
    read ["filter", "-05"] = .ok (.filter ["-05"] "name" false) := by
  have hall : Interleaves ["rating", ">", "-1", ",", "year>2000"] (some "year") true
      ["-d", "rating", ">", "--sort", "year", "-1", ",", "year>2000"] :=
    .descending (.inr rfl) <| .word (by decide) <| .word (by decide) <|
      .sort (.inl rfl) (by decide) <| .word (by decide) <| .word (by decide) <|
        .word (by decide) .nil
  have hnumber : Interleaves ["-05"] none false ["-05"] := .word (by decide) .nil
  exact ⟨hall, hnumber, options_stand_anywhere hall, options_stand_anywhere hnumber⟩

end Command
end GameShelf
