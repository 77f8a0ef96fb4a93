import GameShelf.Condition
import GameShelf.Proofs.Text.FinalSigma

namespace GameShelf.Condition

def nameEquals (pattern : String) : Condition := ⟨.name, .eq, .string pattern⟩

def nameContains (pattern : String) : Condition := ⟨.name, .contains, .string pattern⟩

theorem isMet_nameEquals (pattern : String) (game : Game) :
    (nameEquals pattern).isMet game = foldEq game.name pattern := rfl

theorem isMet_nameContains (pattern : String) (game : Game) :
    (nameContains pattern).isMet game = containsIgnoringCase game.name pattern := rfl

/-- A name that is equal to a pattern contains it exactly if the same sigmas end a word in both, and
a name contains a pattern that literally stands in it if the same sigmas end a word there as in the
pattern by itself. Both always hold where no capital sigma ends a word. -/
theorem contains_unless_sigma_ends_word (game : Game) (pattern : String) :
    let name := game.name.toList
    ((nameEquals pattern).isMet game = true → ((nameContains pattern).isMet game = true ↔
      finalSigmas [] name [] = finalSigmas [] pattern.toList [])) ∧
    (∀ before after, name = before ++ pattern.toList ++ after →
      finalSigmas before.reverse pattern.toList after = finalSigmas [] pattern.toList [] →
        (nameContains pattern).isMet game = true) ∧
    (true ∉ finalSigmas [] name [] → true ∉ finalSigmas [] pattern.toList [] →
      ((nameEquals pattern).isMet game = true → (nameContains pattern).isMet game = true) ∧
        (pattern.toList <:+: name → (nameContains pattern).isMet game = true)) := by
  intro name
  simp only [isMet_nameEquals, isMet_nameContains]
  refine ⟨fun he => ?_, fun before after hn hs => ?_, fun hname hpattern => ⟨fun he => ?_, ?_⟩⟩
  · exact containsIgnoringCase_iff_of_foldEq he
  · exact containsIgnoringCase_of_literal hn hs
  · rw [containsIgnoringCase_iff_of_foldEq he, finalSigmas_eq_replicate hname,
      finalSigmas_eq_replicate hpattern, (foldEq_iff _ _).mp he]
  · rintro ⟨before, after, hn⟩
    have hplace : true ∉ finalSigmas before.reverse pattern.toList after :=
      notMem_finalSigmas_of_infix (hn.symm ▸ hname)
    refine containsIgnoringCase_of_literal hn.symm ?_
    rw [finalSigmas_eq_replicate hplace, finalSigmas_eq_replicate hpattern]

theorem contains_of_same_sigmas :
    ((nameEquals "οδΟΣ").isMet (.named "ΟΔΟΣ" 1) = true ∧
      finalSigmas [] "ΟΔΟΣ".toList [] = finalSigmas [] "οδΟΣ".toList [] ∧
      (nameContains "οδΟΣ").isMet (.named "ΟΔΟΣ" 1) = true) ∧
    ("Η ΟΔΟΣ".toList = "Η ".toList ++ "ΟΔΟΣ".toList ++ [] ∧
      finalSigmas "Η ".toList.reverse "ΟΔΟΣ".toList [] = finalSigmas [] "ΟΔΟΣ".toList [] ∧
      (nameContains "ΟΔΟΣ").isMet (.named "Η ΟΔΟΣ" 1) = true) ∧
    (true ∉ finalSigmas [] "ΣΟΦΙΑ".toList [] ∧ true ∉ finalSigmas [] "ΣΟ".toList [] ∧
      "ΣΟ".toList <:+: "ΣΟΦΙΑ".toList ∧ (nameContains "ΣΟ").isMet (.named "ΣΟΦΙΑ" 1) = true) := by
  have he : (nameEquals "οδΟΣ").isMet (.named "ΟΔΟΣ" 1) = true := by decide
  have hs : finalSigmas [] "ΟΔΟΣ".toList [] = finalSigmas [] "οδΟΣ".toList [] := by decide
  have hl : "Η ΟΔΟΣ".toList = "Η ".toList ++ "ΟΔΟΣ".toList ++ [] := by decide
  have hp : finalSigmas "Η ".toList.reverse "ΟΔΟΣ".toList [] = finalSigmas [] "ΟΔΟΣ".toList [] := by
    decide
  have hname : true ∉ finalSigmas [] "ΣΟΦΙΑ".toList [] := by decide
  have hpattern : true ∉ finalSigmas [] "ΣΟ".toList [] := by decide
  have hi : "ΣΟ".toList <:+: "ΣΟΦΙΑ".toList := by decide
  obtain ⟨hequal, -, -⟩ := contains_unless_sigma_ends_word (.named "ΟΔΟΣ" 1) "οδΟΣ"
  obtain ⟨-, hliteral, -⟩ := contains_unless_sigma_ends_word (.named "Η ΟΔΟΣ" 1) "ΟΔΟΣ"
  obtain ⟨-, -, hnone⟩ := contains_unless_sigma_ends_word (.named "ΣΟΦΙΑ" 1) "ΣΟ"
  exact ⟨⟨he, hs, (hequal he).mpr hs⟩, ⟨hl, hp, hliteral _ _ hl hp⟩, hname, hpattern, hi,
    (hnone hname hpattern).2 hi⟩

/-- The sigma ends a word in the pattern, but in neither name: one has it small, the other has a
letter after it. -/
theorem sigma_in_other_place_missed :
    read "name==ΑΣ" = .ok (nameEquals "ΑΣ") ∧ read "name~=ΑΣ" = .ok (nameContains "ΑΣ") ∧
      (nameEquals "ΑΣ").isMet (.named "ασ" 1) = true ∧
      (nameContains "ΑΣ").isMet (.named "ασ" 1) = false ∧
      "ΑΣ".toList <:+: "ΑΣΑ".toList ∧ (nameContains "ΑΣ").isMet (.named "ΑΣΑ" 1) = false := by
  decide

theorem isMet_nameContains_iff_infix {game : Game} {pattern : String}
    (hname : 'Σ' ∉ game.name.toList) (hpattern : 'Σ' ∉ pattern.toList) :
    (nameContains pattern).isMet game = true ↔
      foldChars pattern.toList <:+: foldChars game.name.toList := by
  rw [isMet_nameContains]
  apply containsIgnoringCase_iff_fold_infix
  · exact notMem_finalSigmas_of_notMem [] hname []
  · exact notMem_finalSigmas_of_notMem [] hpattern []

/-- Without capital sigmas a name contains a pattern exactly if the folded pattern is a run of the
folded name. So neither can be told from another spelling of it, if that has no capital sigma
either. -/
theorem contains_iff_run_of_folded_name {game : Game} {pattern : String}
    (hname : 'Σ' ∉ game.name.toList) (hpattern : 'Σ' ∉ pattern.toList) :
    ((nameContains pattern).isMet game = true ↔
      foldChars pattern.toList <:+: foldChars game.name.toList) ∧
    ∀ (other : Game) (spelling : String), 'Σ' ∉ other.name.toList → 'Σ' ∉ spelling.toList →
      foldEq other.name game.name = true → foldEq spelling pattern = true →
        (nameContains spelling).isMet other = (nameContains pattern).isMet game := by
  have hrun := isMet_nameContains_iff_infix hname hpattern
  refine ⟨hrun, fun other spelling hother hspelling hsame halike => ?_⟩
  rw [foldEq_iff] at hsame halike
  rw [Bool.eq_iff_iff, isMet_nameContains_iff_infix hother hspelling, hrun, hsame, halike]

/-- A capital `İ` folds to two characters, the second of which a pattern can hold alone. -/
theorem contains_iff_run_of_folded_name_of_dotted_capital :
    'Σ' ∉ "İstanbul".toList ∧ 'Σ' ∉ "\u0307ST".toList ∧
      (nameContains "\u0307ST").isMet (.named "İstanbul" 1) = true ∧
      'Σ' ∉ "i\u0307STANBUL".toList ∧ 'Σ' ∉ "\u0307st".toList ∧
      foldEq "i\u0307STANBUL" "İstanbul" = true ∧ foldEq "\u0307st" "\u0307ST" = true ∧
      (nameContains "\u0307st").isMet (.named "i\u0307STANBUL" 1) = true := by
  have hname : 'Σ' ∉ "İstanbul".toList := by decide
  have hpattern : 'Σ' ∉ "\u0307ST".toList := by decide
  have hother : 'Σ' ∉ "i\u0307STANBUL".toList := by decide
  have hspelling : 'Σ' ∉ "\u0307st".toList := by decide
  have hsame : foldEq "i\u0307STANBUL" "İstanbul" = true := by decide
  have halike : foldEq "\u0307st" "\u0307ST" = true := by decide
  have hinfix : foldChars "\u0307ST".toList <:+: foldChars "İstanbul".toList := by decide
  obtain ⟨hrun, hrespelled⟩ :=
    @contains_iff_run_of_folded_name (.named "İstanbul" 1) "\u0307ST" hname hpattern
  have hmet := hrun.mpr hinfix
  exact ⟨hname, hpattern, hmet, hother, hspelling, hsame, halike,
    (hrespelled (.named "i\u0307STANBUL" 1) "\u0307st" hother hspelling hsame halike).trans hmet⟩

end GameShelf.Condition
