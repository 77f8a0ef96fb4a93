import GameShelf.Text.Basic

namespace GameShelf

section Feeds

variable {α : Type} [BEq α] [LawfulBEq α]

theorem notMem_of_mem_splitOn {sep : α} {l part : List α} (h : part ∈ l.splitOn sep) :
    sep ∉ part := by
  induction l generalizing part with
  | nil =>
    rw [List.splitOn_nil, List.mem_singleton] at h
    rw [h]
    exact List.not_mem_nil
  | cons x l ih =>
    rw [List.splitOn_cons_eq_if_modifyHead] at h
    split at h
    · rcases List.mem_cons.mp h with rfl | h
      · exact List.not_mem_nil
      · exact ih h
    · next hx =>
      obtain ⟨first, rest, hs⟩ := List.exists_cons_of_ne_nil (List.splitOn_ne_nil sep l)
      rw [hs] at h ih
      rcases List.mem_cons.mp h with rfl | h
      · have hne : sep ≠ x := fun he => hx (by simp [he])
        exact List.not_mem_cons_of_ne_of_not_mem hne (ih List.mem_cons_self)
      · exact ih (List.mem_cons_of_mem first h)

theorem notMem_of_mem_linesOf {feed carriage : α} {text line : List α}
    (h : line ∈ linesOf feed carriage text) : feed ∉ line := by
  rcases List.mem_append.mp h with hl | hl
  · obtain ⟨part, hp, rfl⟩ := List.mem_map.mp hl
    have hf : feed ∉ part := notMem_of_mem_splitOn ((List.dropLast_sublist _).mem hp)
    split
    · exact fun hm => hf ((List.dropLast_sublist _).mem hm)
    · exact hf
  · obtain ⟨hl, -⟩ := List.mem_filter.mp hl
    exact notMem_of_mem_splitOn (List.mem_of_getLast? (Option.mem_toList.mp hl))

theorem linesOf_append_cons {feed carriage : α} {line : List α} (h : feed ∉ line) (rest : List α) :
    linesOf feed carriage (line ++ feed :: rest) =
      (if line.getLast? == some carriage then line.dropLast else line) ::
        linesOf feed carriage rest := by
  have hne : rest.splitOn feed ≠ [] := List.splitOn_ne_nil feed rest
  rw [linesOf, List.splitOn_append_cons_self_of_not_mem h, List.dropLast_cons_of_ne_nil hne,
    List.map_cons, List.getLast?_cons_of_ne_nil hne, List.cons_append, linesOf]

theorem linesOf_ended {feed carriage : α} {lines : List (List α)} (h : ∀ l ∈ lines, feed ∉ l)
    (hc : ∀ l ∈ lines, l.getLast? ≠ some carriage) :
    linesOf feed carriage (lines.flatMap (· ++ [feed])) = lines := by
  induction lines with
  | nil => simp [linesOf]
  | cons line lines ih =>
    have hl : line.getLast? ≠ some carriage := hc line List.mem_cons_self
    rw [List.flatMap_cons, List.append_assoc, List.singleton_append,
      linesOf_append_cons (h line List.mem_cons_self), if_neg (by simpa using hl),
      ih (fun l hm => h l (List.mem_cons_of_mem line hm))
        fun l hm => hc l (List.mem_cons_of_mem line hm)]

end Feeds

end GameShelf
