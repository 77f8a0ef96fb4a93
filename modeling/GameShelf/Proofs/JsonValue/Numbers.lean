import GameShelf.Proofs.JsonValue.Grammar

namespace GameShelf.JsonValue

def isNumberMark (c : Char) : Bool := c.isDigit || ['-', '+', '.', 'e', 'E'].contains c

def isExponent : List Char → Bool
  | [] => true
  | e :: cs => (e = 'e' || e = 'E') && decide (IsNumeral (splitSign cs).2)

def completesNumber : List Char → Bool
  | '.' :: cs =>
    decide (IsNumeral (cs.takeWhile Char.isDigit)) && isExponent (cs.dropWhile Char.isDigit)
  | cs => isExponent cs

def isUnsignedNumber (cs : List Char) : Bool :=
  decide (IsWhole (cs.takeWhile Char.isDigit)) && completesNumber (cs.dropWhile Char.isDigit)

def isNumber : List Char → Bool
  | '-' :: cs => isUnsignedNumber cs
  | cs => isUnsignedNumber cs

/-- Reads the longest text of such characters as one number. -/
def readNumber (cs : List Char) : Option (JsonValue × List Char) :=
  let numeral := cs.takeWhile isNumberMark
  if isNumber numeral then some (.number (String.ofList numeral), cs.dropWhile isNumberMark)
  else none

theorem isNumberMark_of_isDigit {c : Char} (h : c.isDigit = true) : isNumberMark c = true := by
  rw [isNumberMark, h, Bool.true_or]

theorem exists_eq_append_splitSign (cs : List Char) :
    ∃ sign, (sign = [] ∨ sign = ['+'] ∨ sign = ['-']) ∧ cs = sign ++ (splitSign cs).2 := by
  unfold splitSign
  split
  · exact ⟨['-'], .inr (.inr rfl), rfl⟩
  · exact ⟨['+'], .inr (.inl rfl), rfl⟩
  · exact ⟨[], .inl rfl, rfl⟩

theorem isExponent_iff {cs : List Char} : isExponent cs = true ↔ IsExponent cs := by
  cases cs with
  | nil => exact iff_of_true rfl (.inl rfl)
  | cons e cs =>
    simp only [isExponent, Bool.and_eq_true, Bool.or_eq_true, decide_eq_true_eq]
    constructor
    · rintro ⟨he, hn⟩
      obtain ⟨sign, hsign, hcs⟩ := exists_eq_append_splitSign cs
      exact .inr ⟨e, sign, _, he, hsign, hn, congrArg (e :: ·) hcs⟩
    · rintro (h | ⟨e', sign, ds, he, hsign, hn, h⟩)
      · cases h
      · obtain ⟨rfl, rfl⟩ := List.cons.inj h
        refine ⟨he, ?_⟩
        rcases hsign with rfl | rfl | rfl
        · obtain ⟨d, ds, rfl, hd⟩ := hn.exists_cons
          rw [List.nil_append, splitSign_of_isDigit hd]
          exact hn
        · exact hn
        · exact hn

theorem IsExponent.head? {cs : List Char} (h : IsExponent cs) {c : Char} (hc : c ∈ cs.head?) :
    c = 'e' ∨ c = 'E' := by
  rcases h with rfl | ⟨e, sign, ds, he, -, -, rfl⟩
  · cases hc
  · obtain rfl : e = c := Option.some.inj hc
    exact he

theorem IsExponent.not_isDigit {cs : List Char} (h : IsExponent cs) :
    ∀ c ∈ cs.head?, c.isDigit = false := by
  intro c hc
  rcases h.head? hc with rfl | rfl <;> decide

theorem completesNumber_iff {cs : List Char} :
    completesNumber cs = true ↔
      ∃ fraction exponent, IsFraction fraction ∧ IsExponent exponent ∧
        cs = fraction ++ exponent := by
  constructor
  · intro h
    unfold completesNumber at h
    split at h
    · next cs =>
      rw [Bool.and_eq_true, decide_eq_true_eq, isExponent_iff] at h
      exact ⟨'.' :: cs.takeWhile Char.isDigit, cs.dropWhile Char.isDigit, .inr ⟨_, h.1, rfl⟩, h.2,
        congrArg ('.' :: ·) List.takeWhile_append_dropWhile.symm⟩
    · exact ⟨[], cs, .inl rfl, isExponent_iff.mp h, rfl⟩
  · rintro ⟨fraction, exponent, hf, he, rfl⟩
    rcases hf with rfl | ⟨ds, hds, rfl⟩
    · unfold completesNumber
      split
      · next h =>
        have hpoint := he.head? (c := '.') (by rw [← List.nil_append exponent, h]; rfl)
        exact absurd hpoint (by decide)
      · exact isExponent_iff.mpr he
    · rw [List.cons_append, completesNumber, takeWhile_append_of_head? hds.2 he.not_isDigit,
        dropWhile_append_of_head? hds.2 he.not_isDigit, Bool.and_eq_true, decide_eq_true_eq,
        isExponent_iff]
      exact ⟨hds, he⟩

theorem not_isDigit_of_completes {fraction exponent : List Char} (hf : IsFraction fraction)
    (he : IsExponent exponent) : ∀ c ∈ (fraction ++ exponent).head?, c.isDigit = false := by
  rcases hf with rfl | ⟨ds, -, rfl⟩
  · exact he.not_isDigit
  · intro c hc
    obtain rfl : '.' = c := Option.some.inj hc
    decide

theorem isUnsignedNumber_iff {cs : List Char} :
    isUnsignedNumber cs = true ↔
      ∃ whole fraction exponent, IsWhole whole ∧ IsFraction fraction ∧ IsExponent exponent ∧
        cs = whole ++ (fraction ++ exponent) := by
  rw [isUnsignedNumber, Bool.and_eq_true, decide_eq_true_eq, completesNumber_iff]
  constructor
  · rintro ⟨hw, fraction, exponent, hf, he, h⟩
    refine ⟨_, fraction, exponent, hw, hf, he, ?_⟩
    rw [← h, List.takeWhile_append_dropWhile]
  · rintro ⟨whole, fraction, exponent, hw, hf, he, rfl⟩
    have hhead := not_isDigit_of_completes hf he
    rw [takeWhile_append_of_head? hw.1.2 hhead, dropWhile_append_of_head? hw.1.2 hhead]
    exact ⟨hw, fraction, exponent, hf, he, rfl⟩

theorem isNumber_iff {cs : List Char} : isNumber cs = true ↔ IsNumber cs := by
  constructor
  · intro h
    unfold isNumber at h
    split at h
    · obtain ⟨whole, fraction, exponent, hw, hf, he, rfl⟩ := isUnsignedNumber_iff.mp h
      exact ⟨['-'], whole, fraction, exponent, .inr rfl, hw, hf, he, rfl⟩
    · obtain ⟨whole, fraction, exponent, hw, hf, he, rfl⟩ := isUnsignedNumber_iff.mp h
      exact ⟨[], whole, fraction, exponent, .inl rfl, hw, hf, he, rfl⟩
  · rintro ⟨sign, whole, fraction, exponent, hsign, hw, hf, he, rfl⟩
    have h := isUnsignedNumber_iff.mpr ⟨whole, fraction, exponent, hw, hf, he, rfl⟩
    rcases hsign with rfl | rfl
    · obtain ⟨d, ds, rfl, hd⟩ := hw.1.exists_cons
      unfold isNumber
      split
      · next heq => exact absurd (List.cons.inj heq).1 (ne_of_isDigit hd (by decide))
      · exact h
    · exact h

theorem IsNumber.isNumberMark {cs : List Char} (h : IsNumber cs) :
    ∀ c ∈ cs, isNumberMark c = true := by
  obtain ⟨sign, whole, fraction, exponent, hsign, hw, hf, he, rfl⟩ := h
  have hdigits : ∀ ds : List Char, IsNumeral ds → ∀ c ∈ ds, JsonValue.isNumberMark c = true :=
    fun ds hds c hc => isNumberMark_of_isDigit (hds.2 c hc)
  have hsigns : ∀ sign : List Char, (sign = [] ∨ sign = ['+'] ∨ sign = ['-']) →
      ∀ c ∈ sign, JsonValue.isNumberMark c = true := by
    rintro sign (rfl | rfl | rfl)
    · exact List.forall_mem_nil _
    · exact List.forall_mem_singleton.mpr (by decide)
    · exact List.forall_mem_singleton.mpr (by decide)
  simp only [List.forall_mem_append]
  refine ⟨hsigns sign (hsign.imp_right .inr), hdigits whole hw.1, ?_, ?_⟩
  · rcases hf with rfl | ⟨ds, hds, rfl⟩
    · exact List.forall_mem_nil _
    · rw [List.forall_mem_cons]
      exact ⟨by decide, hdigits ds hds⟩
  · rcases he with rfl | ⟨e, sign, ds, he, hsign, hds, rfl⟩
    · exact List.forall_mem_nil _
    · rw [List.forall_mem_cons, List.forall_mem_append]
      refine ⟨?_, hsigns sign hsign, hdigits ds hds⟩
      rcases he with rfl | rfl <;> decide

theorem IsNumber.head {cs : List Char} (h : IsNumber cs) :
    ∃ c rest, cs = c :: rest ∧ (c = '-' ∨ c.isDigit = true) := by
  obtain ⟨sign, whole, fraction, exponent, hsign, hw, -, -, rfl⟩ := h
  rcases hsign with rfl | rfl
  · obtain ⟨d, ds, rfl, hd⟩ := hw.1.exists_cons
    exact ⟨d, _, rfl, .inr hd⟩
  · exact ⟨'-', _, rfl, .inl rfl⟩

theorem readNumber_append {cs rest : List Char} (h : IsNumber cs)
    (hr : ∀ c ∈ rest.head?, isNumberMark c = false) :
    readNumber (cs ++ rest) = some (.number (String.ofList cs), rest) := by
  rw [readNumber, takeWhile_append_of_head? h.isNumberMark hr,
    dropWhile_append_of_head? h.isNumberMark hr, if_pos (isNumber_iff.mpr h)]

theorem spells_of_readNumber {cs rest : List Char} {v : JsonValue}
    (h : readNumber cs = some (v, rest)) : ∃ ds, cs = ds ++ rest ∧ Spells (.value v) ds := by
  simp only [readNumber, Option.ite_none_right_eq_some, Option.some.injEq, Prod.mk.injEq] at h
  obtain ⟨hnumber, rfl, rfl⟩ := h
  refine ⟨_, List.takeWhile_append_dropWhile.symm, ?_⟩
  have hs : Spells (.value (.number (String.ofList (cs.takeWhile isNumberMark))))
      (String.ofList (cs.takeWhile isNumberMark)).toList := by
    apply Spells.number
    rw [String.toList_ofList]
    exact isNumber_iff.mp hnumber
  rwa [String.toList_ofList] at hs

end GameShelf.JsonValue
