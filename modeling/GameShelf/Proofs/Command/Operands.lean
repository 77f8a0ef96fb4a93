import GameShelf.Command.Reader

namespace GameShelf

/-- A word that cannot be taken for an option. -/
def Undashed (word : String) : Prop := word.toList.head? ≠ some '-'

instance (word : String) : Decidable (Undashed word) :=
  inferInstanceAs (Decidable (word.toList.head? ≠ some '-'))

namespace Arguments

theorem ne_dashes {word : String} (h : Undashed word) : word ≠ "--" := by
  rintro rfl
  exact h rfl

theorem step_undashed (g : Grammar) (s : Arguments) {word : String} (h : Undashed word) :
    s.step g word = s.plain g word := by
  unfold step
  split
  · next he => exact absurd (by simp [he]) h
  · next he => exact absurd (by simp [he]) h
  · rfl

def withWord (t : Arguments) (word : String) : Arguments := { t with words := t.words ++ [word] }

theorem plain_of_settle {g : Grammar} (hg : g.operands = .many) {s t : Arguments}
    (hs : s.settle = .ok t) (word : String) : s.plain g word = .ok (t.withWord word) := by
  unfold plain
  split
  · next hp =>
    rw [settle, hp] at hs
    cases hs
  · rw [operand, hg]
    simp only [hs]
    rfl

theorem readOn_cons {g : Grammar} {s t : Arguments} {word : String} (hw : word ≠ "--")
    (hstep : s.step g word = .ok t) (line : List String) :
    readOn g s (word :: line) = readOn g t line := by
  rw [readOn, if_neg hw, hstep]
  rfl

theorem readOn_undashed {g : Grammar} (hg : g.operands = .many) {words : List String}
    (h : ∀ word ∈ words, Undashed word) (before : List String) :
    readOn g ⟨before, [], none⟩ words = .ok ⟨before ++ words, [], none⟩ := by
  induction words generalizing before with
  | nil =>
    rw [List.append_nil]
    rfl
  | cons word words ih =>
    have hword : Undashed word := h word (by simp)
    have hstep : step g ⟨before, [], none⟩ word = .ok ⟨before ++ [word], [], none⟩ := by
      rw [step_undashed g _ hword, plain_of_settle hg rfl]
      rfl
    rw [readOn_cons (ne_dashes hword) hstep]
    exact (ih (fun w hm => h w (List.mem_cons_of_mem word hm)) _).trans (by simp)

theorem read_undashed {g : Grammar} (hg : g.operands = .many) {words : List String}
    (h : ∀ word ∈ words, Undashed word) : read g words = .ok ⟨words, [], none⟩ :=
  readOn_undashed hg h []

end Arguments

namespace Command

variable {words : List String} (h : ∀ word ∈ words, Undashed word)
include h

theorem read_filter_undashed : read ("filter" :: words) = .ok (.filter words "name" false) := by
  change readFilter words = _
  rw [readFilter, Arguments.read_undashed rfl h]
  rfl

theorem readOperands_undashed (topic : Topic) (hne : words ≠ []) :
    readOperands topic words = .ok words := by
  obtain ⟨word, rest, rfl⟩ := List.exists_cons_of_ne_nil hne
  rw [readOperands, Arguments.read_undashed rfl h]
  rfl

theorem read_add_undashed (hne : words ≠ []) :
    read ("list" :: "add" :: words) = .ok (.list (some (.add words))) := by
  change ((readOperands .listAdd words).map ListAction.add).map _ = _
  rw [readOperands_undashed h .listAdd hne]
  rfl

theorem read_remove_undashed (hne : words ≠ []) :
    read ("list" :: "remove" :: words) = .ok (.list (some (.remove words))) := by
  change ((readOperands .listRemove words).map ListAction.remove).map _ = _
  rw [readOperands_undashed h .listRemove hne]
  rfl

end Command
end GameShelf
