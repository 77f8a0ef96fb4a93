import GameShelf.Proofs.Condition.LetterCase
import GameShelf.Proofs.Picks.Rows

namespace GameShelf

def SelectorError.lowered : SelectorError → SelectorError
  | .invalidRange text available => .invalidRange text.toLower available
  | .invalidIndex text available => .invalidIndex text.toLower available
  | .noMatch name => .noMatch name.toLower
  | .empty action => .empty action

namespace Selector

def lowered : Selector → Selector
  | .name text => .name text.toLower
  | s => s

theorem ofTrimmed_map_toLower (cs : List Char) :
    ofTrimmed (cs.map Char.toLower) = (ofTrimmed cs).lowered := by
  have hall : asciiEq (String.ofList cs).toLower "all" = asciiEq (String.ofList cs) "all" := by
    rw [Bool.eq_iff_iff, asciiEq_iff, asciiEq_iff, toLower_toLower_string]
  have hdash : ∀ c : Char, c.toLower = '-' ↔ c = '-' := fun c => toLower_eq_iff (by decide)
  simp only [ofTrimmed, ofList_map_toLower, hall, takeWhile_isDigit_map_toLower,
    dropWhile_map_toLower isDigit_toLower]
  split
  · rfl
  · split
    · rfl
    · cases hr : cs.dropWhile Char.isDigit with
      | nil => rfl
      | cons c last =>
        by_cases hc : c = '-'
        · have hm : List.map Char.toLower ('-' :: last) = '-' :: last.map Char.toLower := rfl
          rw [hc, hm]
          simp only [List.isEmpty_map, all_map_toLower isDigit_toLower]
          by_cases hd : last.all Char.isDigit = true
          · rw [map_toLower_of_isDigit (List.all_eq_true.mp hd)]
            split
            · rfl
            · rfl
          · simp only [eq_false_of_ne_true hd, Bool.not_false, Bool.or_true, if_true]
            rfl
        · rw [List.map_cons]
          split
          · next he => exact absurd he (List.cons_ne_nil _ _)
          · next he => exact absurd ((hdash c).mp (List.cons.inj he).1) hc
          · split
            · next he => exact absurd he (List.cons_ne_nil _ _)
            · next he => exact absurd (List.cons.inj he).1 hc
            · rfl

theorem pick_lowered (s : Selector) (text : String) (source : List String) :
    s.lowered.pick text.toLower source = (s.pick text source).mapError SelectorError.lowered := by
  cases s with
  | all => rfl
  | range first last =>
    simp only [lowered, pick]
    split
    · rfl
    · rfl
  | position n =>
    simp only [lowered, pick]
    split
    · rfl
    · split
      · rfl
      · rfl
  | name wanted =>
    simp only [lowered, pick, foldEq_toLower]
    split
    · rfl
    · rfl

def lowerRead (read : Selector × String) : Selector × String :=
  (read.1.lowered, read.2.toLower)

theorem readSelector_toLower (action : PickAction) (text : String) :
    readSelector action text.toLower =
      ((readSelector action text).map lowerRead).mapError SelectorError.lowered := by
  simp only [readSelector, toList_toLower, trimChars_map_toLower, List.isEmpty_map]
  split
  · rfl
  · rw [ofTrimmed_map_toLower, ofList_map_toLower]
    generalize ofTrimmed (trimChars text.toList) = s
    rfl

theorem resolve_toLower (action : PickAction) (raw : String) (source : List String) :
    resolve action raw.toLower source =
      (resolve action raw source).mapError SelectorError.lowered := by
  rw [resolve, readSelector_toLower, resolve]
  cases readSelector action raw with
  | error e => rfl
  | ok read => exact pick_lowered read.1 read.2 source

end Selector

namespace Picks

theorem add_toLower (p : Picks) (selector : String) (candidates : List String) :
    p.add selector.toLower candidates =
      (p.add selector candidates).mapError SelectorError.lowered := by
  rw [add_eq_resolve, add_eq_resolve, Selector.resolve_toLower]
  cases Selector.resolve .add selector candidates <;> rfl

theorem remove_toLower (p : Picks) (selector : String) :
    p.remove selector.toLower = (p.remove selector).mapError SelectorError.lowered := by
  rw [remove_eq_resolve, remove_eq_resolve, Selector.resolve_toLower]
  cases Selector.resolve .remove selector p.names <;> rfl

/-- Whether two changes both end with the same names or both fail, for the same reason but for the
case of the letters that are quoted in it. -/
def EndAlike : Except SelectorError Picks → Except SelectorError Picks → Prop
  | .ok p, .ok q => p.names = q.names
  | .error d, .error e => d.lowered = e.lowered
  | _, _ => False

theorem endAlike_of_mapError_eq {first second : Except SelectorError Picks}
    (h : first.mapError SelectorError.lowered = second.mapError SelectorError.lowered) :
    EndAlike first second := by
  cases first with
  | ok p =>
    cases second with
    | ok q =>
      cases h
      exact rfl
    | error e => cases h
  | error d =>
    cases second with
    | ok q => cases h
    | error e => exact Except.error.inj h

end Picks

/-- Texts that differ in nothing but the case of ASCII letters find the same rows in the same order,
pass over the same segments for the same reasons, and change any list of picks alike. -/
theorem letter_case_never_matters {a b : String} (h : asciiEq a b = true) :
    (∀ order rows, { Query.ofExpression a with order }.run rows =
      { Query.ofExpression b with order }.run rows) ∧
    (Condition.skips a).map (Option.map Fault.lowered) =
      (Condition.skips b).map (Option.map Fault.lowered) ∧
    (∀ (p : Picks) candidates, Picks.EndAlike (p.add a candidates) (p.add b candidates)) ∧
    ∀ p : Picks, Picks.EndAlike (p.remove a) (p.remove b) := by
  have he : a.toLower = b.toLower := asciiEq_iff.mp h
  refine ⟨fun order rows => ?_, ?_, fun p candidates => ?_, fun p => ?_⟩
  · rw [← Query.run_toLower a, he, Query.run_toLower b]
  · rw [← Condition.skips_toLower, he, Condition.skips_toLower]
  · apply Picks.endAlike_of_mapError_eq
    rw [← Picks.add_toLower, he, Picks.add_toLower]
  · apply Picks.endAlike_of_mapError_eq
    rw [← Picks.remove_toLower, he, Picks.remove_toLower]

theorem letter_case_never_matters_around_sigma :
    let upper := "NAME~=OΔOΣ, RANK~=1, Rang>1"
    let lower := "name~=oΔoΣ, rank~=1, rang>1"
    let rows := entries [⟨"Οδος oδoς", 1, 0, 2, 5, 0, 0, 2000, .zero, .zero⟩]
    asciiEq upper lower = true ∧ Query.ofExpression upper ≠ Query.ofExpression lower ∧
      (Query.ofExpression upper).run rows = (Query.ofExpression lower).run rows ∧
      Condition.skips upper = [none, some (.unsupportedOperator .contains .integer),
        some (.unknownColumn "Rang")] ∧
      (Condition.skips upper).map (Option.map Fault.lowered) =
        (Condition.skips lower).map (Option.map Fault.lowered) ∧
      asciiEq "ALL" "all" = true ∧
      Picks.EndAlike (Picks.empty.add "ALL" ["Go"]) (Picks.empty.add "all" ["Go"]) := by
  intro upper lower rows
  have h : asciiEq upper lower = true := by decide
  have hall : asciiEq "ALL" "all" = true := by decide
  obtain ⟨hrun, hskips, -, -⟩ := letter_case_never_matters h
  obtain ⟨-, -, hadd, -⟩ := letter_case_never_matters hall
  exact ⟨h, by decide, hrun .byName rows, by decide, hskips, hall, hadd .empty ["Go"]⟩

end GameShelf
