import GameShelf.Proofs.JsonValue.Grammar

namespace GameShelf.JsonValue

def readUnit (cs : List Char) : Option (Nat × List Char) :=
  (codeUnit? (cs.take 4)).map fun n => (n, cs.drop 4)

def readLowUnit (high : Nat) : List Char → Option (Char × List Char)
  | '\\' :: 'u' :: cs =>
    (readUnit cs).bind fun (low, cs) => (paired? high low).map fun c => (c, cs)
  | _ => none

def readEscape : List Char → Option (Char × List Char)
  | 'u' :: cs =>
    (readUnit cs).bind fun (n, cs) =>
      if n.isValidChar then some (Char.ofNat n, cs) else readLowUnit n cs
  | e :: cs => (escaped? e).map fun c => (c, cs)
  | [] => none

def readChar : List Char → Option (Char × List Char)
  | '\\' :: cs => readEscape cs
  | c :: cs => if 0x20 ≤ c.toNat then some (c, cs) else none
  | [] => none

/-- Reads characters up to the closing quote. The number bounds how many there are. -/
def readChars : Nat → List Char → Option (List Char × List Char)
  | 0, _ => none
  | bound + 1, cs =>
    if cs.head? = some '"' then some ([], cs.tail)
    else (readChar cs).bind fun (c, cs) => (readChars bound cs).map fun (s, cs) => (c :: s, cs)

def readString : List Char → Option (String × List Char)
  | '"' :: cs => (readChars cs.length cs).map fun (s, cs) => (String.ofList s, cs)
  | _ => none

theorem length_of_codeUnit? {ds : List Char} {n : Nat} (h : codeUnit? ds = some n) :
    ds.length = 4 := by
  unfold codeUnit? at h
  split at h
  · rfl
  · cases h

theorem readUnit_append {ds : List Char} {n : Nat} (h : codeUnit? ds = some n)
    (rest : List Char) : readUnit (ds ++ rest) = some (n, rest) := by
  have hl := length_of_codeUnit? h
  rw [readUnit, List.take_left' hl, List.drop_left' hl, h]
  rfl

theorem codeUnit?_of_readUnit {cs rest : List Char} {n : Nat}
    (h : readUnit cs = some (n, rest)) : ∃ ds, cs = ds ++ rest ∧ codeUnit? ds = some n := by
  simp only [readUnit, Option.map_eq_some_iff, Prod.mk.injEq] at h
  obtain ⟨_, hn, rfl, rfl⟩ := h
  exact ⟨cs.take 4, (List.take_append_drop 4 cs).symm, hn⟩

theorem not_isValidChar_of_paired? {high low : Nat} {c : Char} (h : paired? high low = some c) :
    ¬high.isValidChar := by
  simp only [paired?, Option.ite_none_right_eq_some] at h
  unfold Nat.isValidChar
  omega

theorem readLowUnit_append {es : List Char} {high low : Nat} {c : Char}
    (he : codeUnit? es = some low) (h : paired? high low = some c) (rest : List Char) :
    readLowUnit high ('\\' :: 'u' :: (es ++ rest)) = some (c, rest) := by
  simp [readLowUnit, readUnit_append he, h]

theorem exists_of_readLowUnit {high : Nat} {cs rest : List Char} {c : Char}
    (h : readLowUnit high cs = some (c, rest)) :
    ∃ es low, cs = '\\' :: 'u' :: (es ++ rest) ∧ codeUnit? es = some low ∧
      paired? high low = some c := by
  unfold readLowUnit at h
  split at h
  · simp only [Option.bind_eq_some_iff, Option.map_eq_some_iff, Prod.exists, Prod.mk.injEq] at h
    obtain ⟨low, _, hu, _, hp, rfl, rfl⟩ := h
    obtain ⟨es, rfl, he⟩ := codeUnit?_of_readUnit hu
    exact ⟨es, low, rfl, he, hp⟩
  · cases h

theorem SpellsChar.cases {c : Char} {cs : List Char} (h : SpellsChar c cs) :
    (cs = [c] ∧ 0x20 ≤ c.toNat ∧ c ≠ '"' ∧ c ≠ '\\') ∨
      ∃ es, cs = '\\' :: es ∧ ∀ rest, readEscape (es ++ rest) = some (c, rest) := by
  cases h with
  | itself hc hq hb => exact .inl ⟨rfl, hc, hq, hb⟩
  | @letter e _ he =>
    refine .inr ⟨[e], rfl, fun rest => ?_⟩
    have hu : e ≠ 'u' := by
      rintro rfl
      cases he
    rw [List.singleton_append]
    unfold readEscape
    split
    · next heq => exact absurd (List.cons.inj heq).1 hu
    · next heq =>
      obtain ⟨rfl, rfl⟩ := List.cons.inj heq
      rw [he]
      rfl
    · next heq => cases heq
  | @unit ds n hd hn =>
    refine .inr ⟨'u' :: ds, rfl, fun rest => ?_⟩
    rw [List.cons_append, readEscape, readUnit_append hd, Option.bind_some]
    exact if_pos hn
  | @pair ds es high low _ hd he hp =>
    refine .inr ⟨'u' :: (ds ++ '\\' :: 'u' :: es), rfl, fun rest => ?_⟩
    rw [List.cons_append, List.append_assoc, readEscape, readUnit_append hd, Option.bind_some]
    exact (if_neg (not_isValidChar_of_paired? hp)).trans (readLowUnit_append he hp rest)

theorem SpellsChar.readChar {c : Char} {cs : List Char} (h : SpellsChar c cs)
    (rest : List Char) : readChar (cs ++ rest) = some (c, rest) := by
  rcases h.cases with ⟨rfl, hc, -, hb⟩ | ⟨es, rfl, he⟩
  · rw [List.singleton_append]
    unfold JsonValue.readChar
    split
    · next heq => exact absurd (List.cons.inj heq).1 hb
    · next heq =>
      obtain ⟨rfl, rfl⟩ := List.cons.inj heq
      exact if_pos hc
    · next heq => cases heq
  · exact he rest

theorem SpellsChar.head {c : Char} {cs : List Char} (h : SpellsChar c cs) :
    ∃ d ds, cs = d :: ds ∧ d ≠ '"' := by
  rcases h.cases with ⟨rfl, -, hq, -⟩ | ⟨es, rfl, -⟩
  · exact ⟨c, [], rfl, hq⟩
  · exact ⟨'\\', es, rfl, by decide⟩

theorem spellsChar_of_readEscape {cs rest : List Char} {c : Char}
    (h : readEscape cs = some (c, rest)) : ∃ ds, cs = ds ++ rest ∧ SpellsChar c ('\\' :: ds) := by
  unfold readEscape at h
  split at h
  · simp only [Option.bind_eq_some_iff, Prod.exists] at h
    obtain ⟨n, cs, hu, h⟩ := h
    obtain ⟨ds, rfl, hd⟩ := codeUnit?_of_readUnit hu
    split at h
    · next hn =>
      obtain ⟨rfl, rfl⟩ := Prod.mk.inj (Option.some.inj h)
      exact ⟨'u' :: ds, rfl, .unit hd hn⟩
    · obtain ⟨es, low, rfl, he, hp⟩ := exists_of_readLowUnit h
      refine ⟨'u' :: (ds ++ '\\' :: 'u' :: es), ?_, .pair hd he hp⟩
      simp
  · next e cs _ =>
    simp only [Option.map_eq_some_iff, Prod.mk.injEq] at h
    obtain ⟨_, he, rfl, rfl⟩ := h
    exact ⟨[e], rfl, .letter he⟩
  · cases h

theorem spellsChar_of_readChar {cs rest : List Char} {c : Char} (hq : cs.head? ≠ some '"')
    (h : readChar cs = some (c, rest)) : ∃ ds, cs = ds ++ rest ∧ SpellsChar c ds := by
  unfold readChar at h
  split at h
  · obtain ⟨ds, rfl, hs⟩ := spellsChar_of_readEscape h
    exact ⟨'\\' :: ds, rfl, hs⟩
  · next d cs hb =>
    simp only [Option.ite_none_right_eq_some, Option.some.injEq, Prod.mk.injEq] at h
    obtain ⟨hd, rfl, rfl⟩ := h
    refine ⟨[d], rfl, .itself hd (fun he => hq (congrArg some he)) hb⟩
  · cases h

theorem readChars_append {s cs : List Char} (h : SpellsChars s cs) {bound : Nat}
    (hb : s.length < bound) (rest : List Char) :
    readChars bound (cs ++ '"' :: rest) = some (s, rest) := by
  induction h generalizing bound with
  | nil =>
    obtain ⟨bound, rfl⟩ := Nat.exists_eq_succ_of_ne_zero (Nat.ne_of_gt hb)
    rfl
  | @cons c cs s ds hc _ ih =>
    obtain ⟨bound, rfl⟩ := Nat.exists_eq_succ_of_ne_zero (Nat.ne_zero_of_lt hb)
    have hread := hc.readChar (ds ++ '"' :: rest)
    have hs := ih (Nat.lt_of_succ_lt_succ hb)
    obtain ⟨d, tail, rfl, hd⟩ := hc.head
    have hhead : (d :: tail ++ (ds ++ '"' :: rest)).head? ≠ some '"' :=
      fun h => hd (Option.some.inj h)
    rw [List.append_assoc, readChars, if_neg hhead, hread]
    simp [hs]

theorem spellsChars_of_readChars {bound : Nat} {cs s rest : List Char}
    (h : readChars bound cs = some (s, rest)) :
    ∃ ds, cs = ds ++ '"' :: rest ∧ SpellsChars s ds := by
  induction bound generalizing cs s with
  | zero => simp [readChars] at h
  | succ bound ih =>
    unfold readChars at h
    split at h
    · next hq =>
      obtain ⟨tail, rfl⟩ := List.head?_eq_some_iff.mp hq
      obtain ⟨rfl, rfl⟩ := Prod.mk.inj (Option.some.inj h)
      exact ⟨[], rfl, .nil⟩
    · next hq =>
      simp only [Option.bind_eq_some_iff, Option.map_eq_some_iff, Prod.exists, Prod.mk.injEq] at h
      obtain ⟨c, cs, hc, s, _, hs, rfl, rfl⟩ := h
      obtain ⟨ds, rfl, hds⟩ := ih hs
      obtain ⟨es, rfl, hes⟩ := spellsChar_of_readChar hq hc
      exact ⟨es ++ ds, by rw [List.append_assoc], .cons hes hds⟩

theorem SpellsChars.length_le {s cs : List Char} (h : SpellsChars s cs) :
    s.length ≤ cs.length := by
  induction h with
  | nil => exact Nat.le_refl _
  | cons hc _ ih =>
    obtain ⟨d, ds, rfl, -⟩ := hc.head
    simp only [List.length_cons, List.length_append]
    omega

theorem readString_append {s : String} {cs : List Char} (h : SpellsString s cs)
    (rest : List Char) : readString (cs ++ rest) = some (s, rest) := by
  obtain ⟨ds, hs, rfl⟩ := h
  have hl : s.toList.length < (ds ++ ['"'] ++ rest).length := by
    have hle := hs.length_le
    simp only [List.length_append, List.length_cons]
    omega
  have hread := readChars_append hs hl rest
  rw [List.append_assoc, List.singleton_append] at hread hl
  rw [List.cons_append, List.append_assoc, List.singleton_append, readString, hread]
  simp

theorem spellsString_of_readString {cs rest : List Char} {s : String}
    (h : readString cs = some (s, rest)) : ∃ ds, cs = ds ++ rest ∧ SpellsString s ds := by
  unfold readString at h
  split at h
  · simp only [Option.map_eq_some_iff, Prod.exists, Prod.mk.injEq] at h
    obtain ⟨t, _, ht, rfl, rfl⟩ := h
    obtain ⟨ds, rfl, hds⟩ := spellsChars_of_readChars ht
    refine ⟨'"' :: (ds ++ ['"']), by simp, ds, ?_, rfl⟩
    rwa [String.toList_ofList]
  · cases h

end GameShelf.JsonValue
