import GameShelf.JsonValue
import GameShelf.Proofs.Text.Numeral

namespace GameShelf.JsonValue

def isSpacing (c : Char) : Bool := [' ', '\t', '\n', '\r'].contains c

def IsSpacing (cs : List Char) : Prop := ∀ c ∈ cs, isSpacing c = true

section Numbers

/-- Digits without a needless zero in front. -/
def IsWhole (cs : List Char) : Prop := IsNumeral cs ∧ (cs.head? = some '0' → cs = ['0'])

instance (cs : List Char) : Decidable (IsWhole cs) :=
  inferInstanceAs (Decidable (IsNumeral cs ∧ (cs.head? = some '0' → cs = ['0'])))

def IsFraction (cs : List Char) : Prop := cs = [] ∨ ∃ ds, IsNumeral ds ∧ cs = '.' :: ds

def IsExponent (cs : List Char) : Prop :=
  cs = [] ∨ ∃ e sign ds, (e = 'e' ∨ e = 'E') ∧ (sign = [] ∨ sign = ['+'] ∨ sign = ['-']) ∧
    IsNumeral ds ∧ cs = e :: (sign ++ ds)

def IsNumber (cs : List Char) : Prop :=
  ∃ sign whole fraction exponent, (sign = [] ∨ sign = ['-']) ∧ IsWhole whole ∧
    IsFraction fraction ∧ IsExponent exponent ∧ cs = sign ++ (whole ++ (fraction ++ exponent))

end Numbers

section Strings

def escaped? : Char → Option Char
  | '"' => some '"'
  | '\\' => some '\\'
  | '/' => some '/'
  | 'b' => some '\x08'
  | 'f' => some '\x0c'
  | 'n' => some '\n'
  | 'r' => some '\r'
  | 't' => some '\t'
  | _ => none

def codeUnit? : List Char → Option Nat
  | [a, b, c, d] => do
    let a ← Radix.hexadecimal.digit? a
    let b ← Radix.hexadecimal.digit? b
    let c ← Radix.hexadecimal.digit? c
    let d ← Radix.hexadecimal.digit? d
    return ((a * 16 + b) * 16 + c) * 16 + d
  | _ => none

/-- The character that two numbers name together, the first and the second half of a pair. -/
def paired? (high low : Nat) : Option Char :=
  if 0xD800 ≤ high ∧ high < 0xDC00 ∧ 0xDC00 ≤ low ∧ low < 0xE000 then
    some (Char.ofNat (0x10000 + (high - 0xD800) * 0x400 + (low - 0xDC00)))
  else none

/-- How a character may stand in a string. One half of a pair alone names no character. -/
inductive SpellsChar : Char → List Char → Prop
  | itself {c : Char} (hc : 0x20 ≤ c.toNat) (hq : c ≠ '"') (hb : c ≠ '\\') : SpellsChar c [c]
  | letter {e c : Char} (h : escaped? e = some c) : SpellsChar c ['\\', e]
  | unit {ds : List Char} {n : Nat} (h : codeUnit? ds = some n) (hn : n.isValidChar) :
      SpellsChar (Char.ofNat n) ('\\' :: 'u' :: ds)
  | pair {ds es : List Char} {high low : Nat} {c : Char} (hd : codeUnit? ds = some high)
      (he : codeUnit? es = some low) (h : paired? high low = some c) :
      SpellsChar c ('\\' :: 'u' :: (ds ++ '\\' :: 'u' :: es))

inductive SpellsChars : List Char → List Char → Prop
  | nil : SpellsChars [] []
  | cons {c : Char} {cs s ds : List Char} (hc : SpellsChar c cs) (h : SpellsChars s ds) :
      SpellsChars (c :: s) (cs ++ ds)

def SpellsString (s : String) (cs : List Char) : Prop :=
  ∃ ds, SpellsChars s.toList ds ∧ cs = '"' :: (ds ++ ['"'])

end Strings

def words : List (List Char × JsonValue) :=
  [(['n', 'u', 'l', 'l'], .null), (['t', 'r', 'u', 'e'], .bool true),
    (['f', 'a', 'l', 's', 'e'], .bool false)]

/-- What a part of a text spells. An element is a value with the spacing around it, and a member is
an element under its key. -/
inductive Phrase where
  | value (v : JsonValue)
  | element (v : JsonValue)
  | elements (vs : List JsonValue)
  | member (m : String × JsonValue)
  | members (ms : List (String × JsonValue))

inductive Spells : Phrase → List Char → Prop
  | word {w : List Char} {v : JsonValue} (h : (w, v) ∈ words) : Spells (.value v) w
  | number {numeral : String} (h : IsNumber numeral.toList) :
      Spells (.value (.number numeral)) numeral.toList
  | string {s : String} {cs : List Char} (h : SpellsString s cs) : Spells (.value (.string s)) cs
  | emptyArray {b : List Char} (hb : IsSpacing b) :
      Spells (.value (.array [])) ('[' :: (b ++ [']']))
  | array {vs : List JsonValue} {cs : List Char} (h : Spells (.elements vs) cs) :
      Spells (.value (.array vs)) ('[' :: (cs ++ [']']))
  | emptyObject {b : List Char} (hb : IsSpacing b) :
      Spells (.value (.object [])) ('\x7b' :: (b ++ ['\x7d']))
  | object {ms : List (String × JsonValue)} {cs : List Char} (h : Spells (.members ms) cs) :
      Spells (.value (.object ms)) ('\x7b' :: (cs ++ ['\x7d']))
  | element {b cs b' : List Char} {v : JsonValue} (hb : IsSpacing b) (h : Spells (.value v) cs)
      (hb' : IsSpacing b') : Spells (.element v) (b ++ (cs ++ b'))
  | lastElement {v : JsonValue} {cs : List Char} (h : Spells (.element v) cs) :
      Spells (.elements [v]) cs
  | moreElements {v : JsonValue} {vs : List JsonValue} {cs ds : List Char}
      (h : Spells (.element v) cs) (hs : Spells (.elements vs) ds) :
      Spells (.elements (v :: vs)) (cs ++ ',' :: ds)
  | member {b ks b' cs : List Char} {key : String} {v : JsonValue} (hb : IsSpacing b)
      (hk : SpellsString key ks) (hb' : IsSpacing b') (h : Spells (.element v) cs) :
      Spells (.member (key, v)) (b ++ (ks ++ (b' ++ ':' :: cs)))
  | lastMember {m : String × JsonValue} {cs : List Char} (h : Spells (.member m) cs) :
      Spells (.members [m]) cs
  | moreMembers {m : String × JsonValue} {ms : List (String × JsonValue)} {cs ds : List Char}
      (h : Spells (.member m) cs) (hs : Spells (.members ms) ds) :
      Spells (.members (m :: ms)) (cs ++ ',' :: ds)

def Denotes (text : String) (v : JsonValue) : Prop := Spells (.element v) text.toList

end GameShelf.JsonValue
