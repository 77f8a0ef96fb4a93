import GameShelf.Text.Fold
import Mathlib.Data.List.Forall2
import Mathlib.Data.List.Infix

namespace GameShelf

/-- For each character of the folded `cs`, whether it comes from a capital sigma that ends a word,
where `before`, reversed, stands before `cs` and `after` stands after it. -/
def finalSigmas (before cs after : List Char) : List Bool :=
  match cs with
  | [] => []
  | c :: rest =>
    (if c = 'Σ' then [endsWord before (rest ++ after)]
      else List.replicate (lower c).length false) ++
      finalSigmas (c :: before) rest after

def finished (c : Char) (final : Bool) : Char := if final then 'ς' else c

theorem lower_sigma : lower 'Σ' = ['σ'] := by decide

theorem zipWith_finished_replicate (cs : List Char) :
    List.zipWith finished cs (List.replicate cs.length false) = cs := by
  induction cs with
  | nil => rfl
  | cons c cs ih =>
    rw [List.length_cons, List.replicate_succ, List.zipWith_cons_cons, ih]
    rfl

theorem forall_finalSigmas (before cs after : List Char) :
    List.Forall₂ (fun c final => final = true → c = 'σ') (foldChars cs)
      (finalSigmas before cs after) := by
  induction cs generalizing before with
  | nil => exact .nil
  | cons c cs ih =>
    rw [foldChars, List.flatMap_cons, finalSigmas]
    refine List.rel_append ?_ (ih (c :: before))
    by_cases hc : c = 'Σ'
    · rw [if_pos hc, hc, lower_sigma]
      exact .cons (fun _ => rfl) .nil
    · rw [if_neg hc]
      exact List.forall₂_iff_get.mpr ⟨by simp, fun i hi hf => by simp⟩

theorem length_finalSigmas (before cs after : List Char) :
    (finalSigmas before cs after).length = (foldChars cs).length :=
  (forall_finalSigmas before cs after).length_eq.symm

theorem finalSigmas_append (before cs ds after : List Char) :
    finalSigmas before (cs ++ ds) after =
      finalSigmas before cs (ds ++ after) ++ finalSigmas (cs.reverse ++ before) ds after := by
  induction cs generalizing before with
  | nil => rfl
  | cons c cs ih => simp [finalSigmas, ih]

/-- Lowering passes `cs` as a folded text with marks, whatever stands around it. -/
theorem lowercaseAfter_append (before cs after : List Char) :
    lowercaseAfter before (cs ++ after) =
      List.zipWith finished (foldChars cs) (finalSigmas before cs after) ++
        lowercaseAfter (cs.reverse ++ before) after := by
  induction cs generalizing before with
  | nil => rfl
  | cons c cs ih =>
    rw [foldChars, List.flatMap_cons, finalSigmas, List.cons_append, lowercaseAfter, ih]
    by_cases hc : c = 'Σ'
    · subst hc
      rw [if_pos rfl, if_pos rfl, lower_sigma]
      simp [finished, foldChars]
    · rw [if_neg hc, if_neg hc, List.zipWith_append (by simp), zipWith_finished_replicate]
      simp [foldChars]

theorem lowercaseChars_eq_zipWith (cs : List Char) :
    lowercaseChars cs = List.zipWith finished (foldChars cs) (finalSigmas [] cs []) := by
  have h := lowercaseAfter_append [] cs []
  rwa [List.append_nil, lowercaseAfter, List.append_nil] at h

theorem length_lowercaseChars (cs : List Char) :
    (lowercaseChars cs).length = (foldChars cs).length := by
  rw [lowercaseChars_eq_zipWith, List.length_zipWith, length_finalSigmas, Nat.min_self]

/-- The marks show: a small sigma and one that ends a word are two characters. -/
theorem eq_of_zipWith_finished_eq {cs : List Char} {first second : List Bool}
    (hfirst : List.Forall₂ (fun c final => final = true → c = 'σ') cs first)
    (hsecond : List.Forall₂ (fun c final => final = true → c = 'σ') cs second)
    (h : List.zipWith finished cs first = List.zipWith finished cs second) : first = second := by
  induction hfirst generalizing second with
  | nil =>
    cases hsecond
    rfl
  | @cons c final cs first hc hcs ih =>
    cases hsecond with
    | @cons _ final' _ second hc' hcs' =>
      obtain ⟨hhead, htail⟩ := List.cons.inj h
      have hfinal : final = final' := by
        cases final <;> cases final'
        · rfl
        · simp [finished, hc' rfl] at hhead
        · simp [finished, hc rfl] at hhead
        · rfl
      rw [hfinal, ih hcs' htail]

theorem containsIgnoringCase_iff_of_foldEq {text pattern : String}
    (h : foldEq text pattern = true) :
    containsIgnoringCase text pattern = true ↔
      finalSigmas [] text.toList [] = finalSigmas [] pattern.toList [] := by
  rw [foldEq_iff] at h
  rw [containsIgnoringCase, occursIn_iff]
  constructor
  · intro hi
    have he := hi.eq_of_length (by rw [length_lowercaseChars, length_lowercaseChars, h])
    rw [lowercaseChars_eq_zipWith, lowercaseChars_eq_zipWith, h] at he
    have htext := forall_finalSigmas [] text.toList []
    rw [h] at htext
    exact (eq_of_zipWith_finished_eq (forall_finalSigmas _ _ _) htext he).symm
  · intro he
    rw [lowercaseChars_eq_zipWith, lowercaseChars_eq_zipWith, h, he]

theorem containsIgnoringCase_of_literal {text pattern : String} {before after : List Char}
    (ht : text.toList = before ++ pattern.toList ++ after)
    (hs : finalSigmas before.reverse pattern.toList after = finalSigmas [] pattern.toList []) :
    containsIgnoringCase text pattern = true := by
  rw [containsIgnoringCase, occursIn_iff, lowercaseChars_eq_zipWith pattern.toList, ht,
    lowercaseChars, List.append_assoc, lowercaseAfter_append, List.append_nil,
    lowercaseAfter_append, hs]
  exact ⟨_, _, List.append_assoc _ _ _⟩

theorem finalSigmas_eq_replicate {before cs after : List Char}
    (h : true ∉ finalSigmas before cs after) :
    finalSigmas before cs after = List.replicate (foldChars cs).length false := by
  refine List.eq_replicate_iff.mpr ⟨length_finalSigmas before cs after, fun final hf => ?_⟩
  cases final with
  | false => rfl
  | true => exact absurd hf h

theorem notMem_finalSigmas_of_notMem (before : List Char) {cs : List Char} (h : 'Σ' ∉ cs)
    (after : List Char) : true ∉ finalSigmas before cs after := by
  induction cs generalizing before with
  | nil => exact List.not_mem_nil
  | cons c cs ih =>
    have hc : c ≠ 'Σ' := fun he => h (he ▸ List.mem_cons_self)
    have hcs : 'Σ' ∉ cs := fun hm => h (List.mem_cons_of_mem c hm)
    rw [finalSigmas, if_neg hc]
    intro hm
    rcases List.mem_append.mp hm with hhere | hlater
    · cases List.eq_of_mem_replicate hhere
    · exact ih (c :: before) hcs hlater

theorem lowercaseChars_eq_foldChars {cs : List Char} (h : true ∉ finalSigmas [] cs []) :
    lowercaseChars cs = foldChars cs := by
  rw [lowercaseChars_eq_zipWith, finalSigmas_eq_replicate h, zipWith_finished_replicate]

theorem containsIgnoringCase_iff_fold_infix {text pattern : String}
    (ht : true ∉ finalSigmas [] text.toList []) (hp : true ∉ finalSigmas [] pattern.toList []) :
    containsIgnoringCase text pattern = true ↔
      foldChars pattern.toList <:+: foldChars text.toList := by
  rw [containsIgnoringCase, occursIn_iff, lowercaseChars_eq_foldChars ht,
    lowercaseChars_eq_foldChars hp]

theorem notMem_finalSigmas_of_infix {before cs after : List Char}
    (h : true ∉ finalSigmas [] (before ++ cs ++ after) []) :
    true ∉ finalSigmas before.reverse cs after := by
  rw [List.append_assoc, finalSigmas_append, finalSigmas_append] at h
  simp only [List.append_nil] at h
  exact fun hm => h (List.mem_append_right _ (List.mem_append_left _ hm))

end GameShelf
