import GameShelf.Words

namespace GameShelf.Words

/-- Characters that mean nothing but themselves outside quotes. -/
def isOrdinary (c : Char) : Bool :=
  !isDelimiter c && c != '\\' && c != '\'' && c != '"' && c != '#'

def IsBare (word : List Char) : Prop := word ≠ [] ∧ ∀ c ∈ word, isOrdinary c = true

instance (word : List Char) : Decidable (IsBare word) :=
  decidable_of_iff (word ≠ [] ∧ word.all isOrdinary = true) (by simp [IsBare])

theorem splitFrom_between_cons (rest : List Char) {c : Char} (h : isOrdinary c = true) :
    splitFrom [] .between (c :: rest) = splitFrom [c] .bare rest := by
  simp only [isOrdinary, Bool.and_eq_true, Bool.not_eq_true', bne_iff_ne] at h
  obtain ⟨⟨⟨⟨hd, hb⟩, hs⟩, hq⟩, hc⟩ := h
  simp [splitFrom, hd, hb, hs, hq, hc]

theorem splitFrom_bare_cons (word rest : List Char) {c : Char} (h : isOrdinary c = true) :
    splitFrom word .bare (c :: rest) = splitFrom (word ++ [c]) .bare rest := by
  simp only [isOrdinary, Bool.and_eq_true, Bool.not_eq_true', bne_iff_ne] at h
  obtain ⟨⟨⟨⟨hd, hb⟩, hs⟩, hq⟩, -⟩ := h
  simp [splitFrom, hd, hb, hs, hq]

theorem splitFrom_bare_append (word rest : List Char) {cs : List Char}
    (h : ∀ c ∈ cs, isOrdinary c = true) :
    splitFrom word .bare (cs ++ rest) = splitFrom (word ++ cs) .bare rest := by
  induction cs generalizing word with
  | nil => simp
  | cons c cs ih =>
    rw [List.cons_append, splitFrom_bare_cons word _ (h c (by simp)),
      ih (word ++ [c]) fun d hd => h d (List.mem_cons_of_mem c hd), List.append_assoc]
    rfl

theorem splitFrom_bareWord (rest : List Char) {word : List Char} (h : IsBare word) :
    splitFrom [] .between (word ++ ' ' :: rest) =
      (splitFrom [] .between rest).map (word :: ·) := by
  obtain ⟨hne, ho⟩ := h
  obtain ⟨c, cs, rfl⟩ := List.exists_cons_of_ne_nil hne
  rw [List.cons_append, splitFrom_between_cons _ (ho c (by simp)),
    splitFrom_bare_append _ _ fun d hd => ho d (List.mem_cons_of_mem c hd)]
  rfl

theorem splitFrom_bareWords (rest : List Char) {words : List (List Char)}
    (h : ∀ word ∈ words, IsBare word) :
    splitFrom [] .between (words.flatMap (· ++ [' ']) ++ rest) =
      (splitFrom [] .between rest).map (words ++ ·) := by
  induction words with
  | nil => simp
  | cons word words ih =>
    have hw : (word :: words).flatMap (· ++ [' ']) ++ rest =
        word ++ ' ' :: (words.flatMap (· ++ [' ']) ++ rest) := by simp
    rw [hw, splitFrom_bareWord _ (h word (by simp)),
      ih fun w hm => h w (List.mem_cons_of_mem word hm), Option.map_map]
    rfl

/-- In single quotes no character but the quote that closes them has a meaning. -/
theorem splitFrom_single_append (word rest : List Char) {cs : List Char} (h : '\'' ∉ cs) :
    splitFrom word .single (cs ++ '\'' :: rest) = splitFrom (word ++ cs) .bare rest := by
  induction cs generalizing word with
  | nil => simp [splitFrom]
  | cons c cs ih =>
    obtain ⟨hc, hcs⟩ := List.ne_and_not_mem_of_not_mem_cons h
    rw [List.cons_append, splitFrom, if_neg (Ne.symm hc), ih (word ++ [c]) hcs,
      List.append_assoc]
    rfl

def quotedLine (words : List String) (text : String) : String :=
  String.ofList ((words.map String.toList).flatMap (· ++ [' ']) ++ '\'' :: (text.toList ++ ['\'']))

theorem split?_quotedLine {words : List String} (hw : ∀ word ∈ words, IsBare word.toList)
    {text : String} (ht : '\'' ∉ text.toList) :
    split? (quotedLine words text) = some (words ++ [text]) := by
  have hquoted : splitFrom [] .between ('\'' :: (text.toList ++ ['\''])) = some [text.toList] :=
    splitFrom_single_append [] [] ht
  have hbare : ∀ word ∈ words.map String.toList, IsBare word := by simpa using hw
  rw [split?, quotedLine, String.toList_ofList, splitFrom_bareWords _ hbare, hquoted]
  simp

end GameShelf.Words
