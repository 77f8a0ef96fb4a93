import GameShelf.Text.Basic
import Mathlib.Data.List.DropRight
import Mathlib.Data.List.Infix

namespace GameShelf

def NoOuterBlank (t : List Char) : Prop :=
  (∀ c ∈ t.head?, isBlank c = false) ∧ ∀ c ∈ t.getLast?, isBlank c = false

theorem not_isBlank_of_visible {c : Char} (h : 33 ≤ c.toNat ∧ c.toNat ≤ 126) :
    isBlank c = false := by
  simp only [isBlank, Bool.or_eq_false_iff, Bool.and_eq_false_iff, decide_eq_false_iff_not,
    beq_eq_false_iff_ne]
  omega

def IsBlanks (w : List Char) : Prop := ∀ c ∈ w, isBlank c = true

instance (w : List Char) : Decidable (IsBlanks w) :=
  decidable_of_iff (w.all isBlank = true) List.all_eq_true

instance (t : List Char) : Decidable (NoOuterBlank t) :=
  decidable_of_iff
    (t.head?.all (!isBlank ·) = true ∧ t.getLast?.all (!isBlank ·) = true)
    (by simp [NoOuterBlank, Option.all_eq_true])

theorem IsBlanks.append {v w : List Char} (hv : IsBlanks v) (hw : IsBlanks w) :
    IsBlanks (v ++ w) := by
  intro c hc
  rcases List.mem_append.mp hc with h | h
  · exact hv c h
  · exact hw c h

theorem NoOuterBlank.reverse {t : List Char} (h : NoOuterBlank t) : NoOuterBlank t.reverse := by
  refine ⟨?_, ?_⟩
  · simpa using h.2
  · simpa using h.1

theorem NoOuterBlank.of_forall {t : List Char} (h : ∀ c ∈ t, isBlank c = false) :
    NoOuterBlank t :=
  ⟨fun c hc => h c (List.mem_of_mem_head? hc), fun c hc => h c (List.mem_of_mem_getLast? hc)⟩

theorem NoOuterBlank.append {s t : List Char} (hs : NoOuterBlank s) (ht : NoOuterBlank t)
    (hne : s ≠ []) (hne' : t ≠ []) (m : List Char) : NoOuterBlank (s ++ m ++ t) := by
  obtain ⟨c, cs, rfl⟩ := List.exists_cons_of_ne_nil hne
  refine ⟨?_, ?_⟩
  · simpa using hs.1
  · rw [List.getLast?_append_of_ne_nil _ hne']
    exact ht.2

theorem noOuterBlank_intercalate (sep : List Char) {parts : List (List Char)} (hparts : parts ≠ [])
    (h : ∀ p ∈ parts, p ≠ [] ∧ NoOuterBlank p) :
    sep.intercalate parts ≠ [] ∧ NoOuterBlank (sep.intercalate parts) := by
  induction parts with
  | nil => exact absurd rfl hparts
  | cons p parts ih =>
    obtain ⟨hne, hp⟩ := h p (by simp)
    by_cases hnil : parts = []
    · rw [hnil, List.intercalate_singleton]
      exact ⟨hne, hp⟩
    · obtain ⟨hne', hrest⟩ := ih hnil fun q hq => h q (List.mem_cons_of_mem p hq)
      rw [List.intercalate_cons_of_ne_nil hnil]
      exact ⟨by simp [hne], hp.append hrest hne hne' sep⟩

theorem dropWhile_isBlank_append {w t : List Char} (hw : IsBlanks w) (ht : NoOuterBlank t)
    (hne : t ≠ []) (rest : List Char) : (w ++ (t ++ rest)).dropWhile isBlank = t ++ rest := by
  obtain ⟨c, cs, rfl⟩ := List.exists_cons_of_ne_nil hne
  have hc : isBlank c = false := ht.1 c (by simp)
  rw [List.dropWhile_append_of_pos hw, List.cons_append, List.dropWhile_cons_of_neg (by simp [hc])]

theorem trimChars_append {w t v : List Char} (hw : IsBlanks w) (ht : NoOuterBlank t)
    (hv : IsBlanks v) : trimChars (w ++ t ++ v) = t := by
  by_cases hne : t = []
  · subst hne
    have : (w ++ v).dropWhile isBlank = [] := List.dropWhile_eq_nil_iff.mpr (hw.append hv)
    simp [trimChars, trimBy, this]
  · have hr : IsBlanks v.reverse := fun c hc => hv c (by simpa using hc)
    have hl := dropWhile_isBlank_append hw ht hne v
    have hb := dropWhile_isBlank_append hr ht.reverse (by simpa using hne) []
    rw [List.append_nil] at hb
    rw [trimChars, trimBy, List.append_assoc, hl, List.reverse_append, hb, List.reverse_reverse]

theorem trimChars_eq_self {t : List Char} (ht : NoOuterBlank t) : trimChars t = t := by
  simpa using trimChars_append (w := []) (v := []) (by simp [IsBlanks]) ht (by simp [IsBlanks])

theorem noOuterBlank_trimChars (cs : List Char) : NoOuterBlank (trimChars cs) := by
  let rest := cs.dropWhile isBlank
  have hp : trimChars cs <+: rest := List.rdropWhile_prefix isBlank rest
  by_cases hne : trimChars cs = []
  · simp [hne, NoOuterBlank]
  · refine ⟨fun c hc => ?_, fun c hc => ?_⟩
    · rw [List.head?_eq_some_head hne] at hc
      cases hc
      rw [hp.head hne]
      exact List.head_dropWhile_not isBlank _
    · rw [List.getLast?_eq_some_getLast hne] at hc
      cases hc
      exact eq_false_of_ne_true (List.rdropWhile_last_not isBlank rest hne)

section FlatMap

variable {α β : Type} {f : α → List β} {p : β → Bool} {q : α → Bool}

theorem dropWhile_flatMap (hf : ∀ a, f a ≠ []) (h : ∀ a, ∀ b ∈ f a, p b = q a) (l : List α) :
    (l.flatMap f).dropWhile p = (l.dropWhile q).flatMap f := by
  induction l with
  | nil => rfl
  | cons a l ih =>
    rw [List.flatMap_cons]
    cases ha : q a with
    | true =>
      rw [List.dropWhile_cons_of_pos ha, List.dropWhile_append_of_pos fun b hb => ?_, ih]
      rw [h a b hb, ha]
    | false =>
      obtain ⟨b, bs, hfa⟩ := List.exists_cons_of_ne_nil (hf a)
      have hb : p b = false := by rw [h a b (by simp [hfa]), ha]
      rw [List.dropWhile_cons_of_neg (by simp [ha]), List.flatMap_cons, hfa, List.cons_append,
        List.dropWhile_cons_of_neg (by simp [hb])]

/-- Elements that are trimmed off go with all that they are written as. -/
theorem trimBy_flatMap (hf : ∀ a, f a ≠ []) (h : ∀ a, ∀ b ∈ f a, p b = q a) (l : List α) :
    trimBy p (l.flatMap f) = (trimBy q l).flatMap f := by
  have hf' : ∀ a, (f a).reverse ≠ [] := fun a => by simpa using hf a
  have h' : ∀ a, ∀ b ∈ (f a).reverse, p b = q a := fun a b hb => h a b (by simpa using hb)
  have hr : ∀ l : List α, (l.flatMap f).reverse = l.reverse.flatMap fun a => (f a).reverse :=
    fun l => List.reverse_flatMap
  rw [trimBy, trimBy, dropWhile_flatMap hf h, hr, dropWhile_flatMap hf' h']
  apply List.reverse_injective
  rw [List.reverse_reverse, hr, List.reverse_reverse]

end FlatMap

theorem exists_eq_append_trimBy {α : Type} (p : α → Bool) (l : List α) :
    ∃ w w', (∀ a ∈ w, p a = true) ∧ (∀ a ∈ w', p a = true) ∧ l = w ++ trimBy p l ++ w' := by
  let rest := l.dropWhile p
  refine ⟨l.takeWhile p, rest.rtakeWhile p, ?_, ?_, ?_⟩
  · exact fun a ha => List.mem_takeWhile_imp ha
  · exact fun a ha => List.mem_rtakeWhile_imp ha
  · have ht : trimBy p l ++ rest.rtakeWhile p = rest :=
      List.rdropWhile_append_rtakeWhile (p := p) (l := rest)
    rw [List.append_assoc, ht, List.takeWhile_append_dropWhile]

theorem exists_eq_append_trimChars (cs : List Char) :
    ∃ w w', IsBlanks w ∧ IsBlanks w' ∧ cs = w ++ trimChars cs ++ w' :=
  exists_eq_append_trimBy isBlank cs

/-- Blanks around a text make no difference to what is left of it. -/
theorem trimChars_around {w v : List Char} (hw : IsBlanks w) (hv : IsBlanks v) (cs : List Char) :
    trimChars (w ++ cs ++ v) = trimChars cs := by
  obtain ⟨u, u', hu, hu', hcs⟩ := exists_eq_append_trimChars cs
  have he : w ++ cs ++ v = (w ++ u) ++ trimChars cs ++ (u' ++ v) := by
    conv_lhs => rw [hcs]
    simp
  rw [he, trimChars_append (hw.append hu) (noOuterBlank_trimChars cs) (hu'.append hv)]

theorem infix_of_infix_append {needle w t : List Char} (hw : IsBlanks w) (hne : needle ≠ [])
    (hn : ∀ c ∈ needle, isBlank c = false) (h : needle <:+: w ++ t) : needle <:+: t := by
  induction w with
  | nil => exact h
  | cons b w ih =>
    rw [List.cons_append, List.infix_cons_iff] at h
    rcases h with hp | hi
    · obtain ⟨c, cs, rfl⟩ := List.exists_cons_of_ne_nil hne
      obtain ⟨rfl, -⟩ := List.cons_prefix_cons.mp hp
      have hb := hw c (by simp)
      rw [hn c (by simp)] at hb
      cases hb
    · exact ih (fun c hc => hw c (List.mem_cons_of_mem b hc)) hi

end GameShelf
