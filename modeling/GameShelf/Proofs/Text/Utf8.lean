import GameShelf.Proofs.Text.Trim
import GameShelf.Text.Basic

namespace GameShelf

def utf8 (cs : List Char) : List UInt8 := cs.flatMap String.utf8EncodeChar

theorem utf8_append (cs ds : List Char) : utf8 (cs ++ ds) = utf8 cs ++ utf8 ds :=
  List.flatMap_append

theorem utf8_cons (c : Char) (cs : List Char) :
    utf8 (c :: cs) = String.utf8EncodeChar c ++ utf8 cs :=
  List.flatMap_cons

theorem utf8_singleton (c : Char) : utf8 [c] = String.utf8EncodeChar c :=
  List.flatMap_singleton _ _

theorem toByteArray_utf8 (s : String) : (utf8 s.toList).toByteArray = s.toByteArray :=
  String.utf8Encode_toList

theorem decodeUtf8_eq_ok_iff {bytes : List UInt8} {s : String} :
    decodeUtf8 bytes = .ok s ↔ bytes = utf8 s.toList := by
  unfold decodeUtf8
  constructor
  · intro h
    split at h
    · next found hf =>
      cases h
      obtain ⟨hv, hs⟩ := Option.dite_none_right_eq_some.mp hf
      have hb : bytes.toByteArray = s.toByteArray := by
        rw [← Option.some.inj hs]
        rfl
      rw [← toByteArray_utf8] at hb
      exact List.toByteArray_inj.mp hb
    · cases h
  · rintro rfl
    have hv : (utf8 s.toList).toByteArray.IsValidUTF8 := ByteArray.isValidUTF8_utf8Encode
    have hs : String.fromUTF8? (utf8 s.toList).toByteArray = some s := by
      rw [String.fromUTF8?, dif_pos hv, Option.some.injEq, ← String.toByteArray_inj]
      exact toByteArray_utf8 s
    rw [hs]

theorem decodeUtf8_utf8 (cs : List Char) : decodeUtf8 (utf8 cs) = .ok (String.ofList cs) :=
  decodeUtf8_eq_ok_iff.mpr (by rw [String.toList_ofList])

theorem le_toNat_of_mem_utf8EncodeChar {c : Char} {b : UInt8} (hc : 128 ≤ c.toNat)
    (h : b ∈ String.utf8EncodeChar c) : 128 ≤ b.toNat := by
  have hv : c.val.toNat = c.toNat := rfl
  unfold String.utf8EncodeChar at h
  simp only [hv, if_neg (show ¬c.toNat ≤ 127 by omega)] at h
  split at h
  · simp only [List.mem_cons, List.not_mem_nil, or_false] at h
    obtain rfl | rfl := h <;> rw [UInt8.toNat_ofNat'] <;> omega
  · split at h
    · simp only [List.mem_cons, List.not_mem_nil, or_false] at h
      obtain rfl | rfl | rfl := h <;> rw [UInt8.toNat_ofNat'] <;> omega
    · simp only [List.mem_cons, List.not_mem_nil, or_false] at h
      obtain rfl | rfl | rfl | rfl := h <;> rw [UInt8.toNat_ofNat'] <;> omega

theorem utf8EncodeChar_ascii {c : Char} (h : c.toNat < 128) :
    String.utf8EncodeChar c = [UInt8.ofNat c.toNat] :=
  if_pos (Nat.le_of_lt_succ h)

theorem utf8EncodeChar_of_mem {c : Char} {b : UInt8} (h : b ∈ String.utf8EncodeChar c)
    (hb : b.toNat < 128) : String.utf8EncodeChar c = [b] ∧ c.toNat = b.toNat := by
  have hc : c.toNat < 128 := by
    by_contra hlong
    exact absurd (le_toNat_of_mem_utf8EncodeChar (Nat.le_of_not_lt hlong) h) (by omega)
  rw [utf8EncodeChar_ascii hc] at h ⊢
  obtain rfl := List.mem_singleton.mp h
  exact ⟨rfl, (UInt8.toNat_ofNat_of_lt' (Nat.lt_trans hc (by decide))).symm⟩

theorem eq_concat_of_utf8 {cs : List Char} {bytes : List UInt8} {b : UInt8}
    (h : utf8 cs = bytes ++ [b]) (hb : b.toNat < 128) :
    ∃ ds c, cs = ds ++ [c] ∧ bytes = utf8 ds ∧ c.toNat = b.toNat := by
  rcases List.eq_nil_or_concat cs with rfl | ⟨ds, c, hcs⟩
  · simp [utf8] at h
  · rw [List.concat_eq_append] at hcs
    rw [hcs, utf8_append, utf8_singleton] at h
    have hlast : b ∈ String.utf8EncodeChar c := by
      have hl := congrArg List.getLast? h
      rw [List.getLast?_append_of_ne_nil _ String.utf8EncodeChar_ne_nil,
        List.getLast?_concat] at hl
      exact List.mem_of_getLast? hl
    obtain ⟨he, hc⟩ := utf8EncodeChar_of_mem hlast hb
    rw [he] at h
    exact ⟨ds, c, hcs, (List.append_inj_left' h rfl).symm, hc⟩

theorem length_utf8 (cs : List Char) : (utf8 cs).length = (String.ofList cs).utf8ByteSize := by
  have h := congrArg ByteArray.size (toByteArray_utf8 (String.ofList cs))
  rwa [String.toList_ofList, List.size_toByteArray, String.size_toByteArray] at h

/-- A byte below 128 stands only where a character starts. -/
theorem exists_append_of_drop_utf8 {cs : List Char} {n : Nat} {b : UInt8} {bytes : List UInt8}
    (h : (utf8 cs).drop n = b :: bytes) (hb : b.toNat < 128) :
    ∃ front rest, cs = front ++ rest ∧ (utf8 front).length = n ∧ utf8 rest = b :: bytes := by
  induction cs generalizing n with
  | nil => simp [utf8] at h
  | cons c cs ih =>
    rw [utf8_cons] at h
    by_cases hn : (String.utf8EncodeChar c).length ≤ n
    · rw [List.drop_append, List.drop_eq_nil_of_le hn, List.nil_append] at h
      obtain ⟨front, rest, rfl, hlength, hrest⟩ := ih h
      refine ⟨c :: front, rest, rfl, ?_, hrest⟩
      rw [utf8_cons, List.length_append, hlength]
      omega
    · have hdrop : (String.utf8EncodeChar c).drop n ≠ [] := by
        rw [Ne, List.drop_eq_nil_iff]
        exact hn
      obtain ⟨d, more, hd⟩ := List.exists_cons_of_ne_nil hdrop
      rw [List.drop_append_of_le_length (Nat.le_of_not_le hn), hd, List.cons_append] at h
      obtain rfl := (List.cons.inj h).1
      have hmem : d ∈ String.utf8EncodeChar c := List.mem_of_mem_drop (hd ▸ List.mem_cons_self)
      -- the byte is all of its character, so nothing is dropped from that character
      obtain ⟨hone, -⟩ := utf8EncodeChar_of_mem hmem hb
      have hzero : n = 0 := by
        rw [hone, List.length_singleton] at hn
        omega
      refine ⟨[], c :: cs, rfl, hzero.symm, ?_⟩
      rw [utf8_cons, ← h, ← List.cons_append, ← hd, hzero, List.drop_zero]

theorem prefix_of_utf8_prefix {pattern cs : List Char} (ha : ∀ c ∈ pattern, c.toNat < 128)
    (h : utf8 pattern <+: utf8 cs) : pattern <+: cs := by
  induction pattern generalizing cs with
  | nil => exact List.nil_prefix
  | cons p pattern ih =>
    have hp := ha p List.mem_cons_self
    have hbyte : (UInt8.ofNat p.toNat).toNat = p.toNat :=
      UInt8.toNat_ofNat_of_lt' (Nat.lt_trans hp (by decide))
    rw [utf8_cons, utf8EncodeChar_ascii hp, List.singleton_append] at h
    cases cs with
    | nil => simp [utf8] at h
    | cons c cs =>
      obtain ⟨b, more, hc⟩ := List.exists_cons_of_ne_nil (String.utf8EncodeChar_ne_nil (c := c))
      rw [utf8_cons, hc, List.cons_append, List.cons_prefix_cons] at h
      obtain ⟨rfl, h⟩ := h
      obtain ⟨hone, htoNat⟩ :=
        utf8EncodeChar_of_mem (hc ▸ List.mem_cons_self) (hbyte.symm ▸ hp)
      obtain rfl : c = p := Char.toNat_inj.mp (htoNat.trans hbyte)
      rw [hc, List.cons.injEq] at hone
      rw [hone.2, List.nil_append] at h
      rw [List.cons_prefix_cons]
      exact ⟨rfl, ih (fun d hd => ha d (List.mem_cons_of_mem c hd)) h⟩

end GameShelf
