import GameShelf.Text.CaseTable

namespace GameShelf

/-- The lowercase form of a character, which for `İ` has two characters. -/
def lower (c : Char) : List Char :=
  if c.toNat < 128 then [c.toLower]
  else if c = 'İ' then ['i', '\u0307']
  else match caseRuns.find? (·.covers c.toNat) with
    | some run => [Char.ofNat (c.toNat + run.offset).toNat]
    | none => [c]

def foldChars (cs : List Char) : List Char := cs.flatMap lower

def foldCompare (a b : String) : Ordering := compare (foldChars a.toList) (foldChars b.toList)

def foldEq (a b : String) : Bool := foldCompare a b == .eq

def meetsCased (cs : List Char) : Bool :=
  match cs.dropWhile isCaseIgnorable with
  | [] => false
  | c :: _ => isCased c

/-- Whether a letter ends a word: cased text before it and none after. `before` is reversed. -/
def endsWord (before after : List Char) : Bool := meetsCased before && !meetsCased after

def lowercaseAfter (before : List Char) : List Char → List Char
  | [] => []
  | c :: rest =>
    (if c = 'Σ' then [if endsWord before rest then 'ς' else 'σ'] else lower c) ++
      lowercaseAfter (c :: before) rest

def lowercaseChars (cs : List Char) : List Char := lowercaseAfter [] cs

def occursIn {α : Type} [BEq α] (needle : List α) : List α → Bool
  | [] => needle.isEmpty
  | c :: cs => needle.isPrefixOf (c :: cs) || occursIn needle cs

/-- Whether the lowered pattern stands somewhere in the lowered text. -/
def containsIgnoringCase (text pattern : String) : Bool :=
  occursIn (lowercaseChars pattern.toList) (lowercaseChars text.toList)

def asciiEq (a b : String) : Bool := a.toList.map Char.toLower == b.toList.map Char.toLower

theorem foldEq_iff (a b : String) :
    foldEq a b = true ↔ foldChars a.toList = foldChars b.toList := by
  simp [foldEq, foldCompare]

theorem foldEq_refl (a : String) : foldEq a a = true := (foldEq_iff a a).mpr rfl

theorem occursIn_iff {α : Type} [BEq α] [LawfulBEq α] (needle l : List α) :
    occursIn needle l = true ↔ needle <:+: l := by
  induction l with
  | nil => simp [occursIn]
  | cons c cs ih =>
    simp [occursIn, ih, List.infix_cons_iff]

theorem toLower_eq_self {c : Char} (h : ¬(65 ≤ c.toNat ∧ c.toNat ≤ 90)) : c.toLower = c :=
  dif_neg (by simpa [UInt32.le_iff_toNat_le] using h)

theorem asciiEq_refl (a : String) : asciiEq a a = true := by simp [asciiEq]

end GameShelf
