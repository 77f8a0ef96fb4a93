namespace GameShelf

def inRanges (n : Nat) : List (Nat × Nat) → Bool
  | [] => false
  | (first, last) :: rest => if n < first then false else n ≤ last || inRanges n rest

/-- The characters with the Unicode property White_Space. -/
def isBlank (c : Char) : Bool :=
  let n := c.toNat
  (9 ≤ n && n ≤ 13) || n == 0x20 || n == 0x85 || n == 0xA0 || n == 0x1680 ||
    (0x2000 ≤ n && n ≤ 0x200A) || n == 0x2028 || n == 0x2029 || n == 0x202F || n == 0x205F ||
    n == 0x3000

def trimBy {α : Type} (p : α → Bool) (l : List α) : List α :=
  ((l.dropWhile p).reverse.dropWhile p).reverse

def trimChars (cs : List Char) : List Char := trimBy isBlank cs

def trim (s : String) : String := String.ofList (trimChars s.toList)

theorem isEmpty_ofList (cs : List Char) : (String.ofList cs).isEmpty = cs.isEmpty := by
  rw [Bool.eq_iff_iff, String.isEmpty_iff, List.isEmpty_iff, ← String.toList_inj]
  simp

theorem toList_trim (s : String) : (trim s).toList = trimChars s.toList :=
  String.toList_ofList

/-- The lines of a text that end with the feed; what stands behind the last of them is a line too
unless it is empty. One `carriage` before a feed goes with it. -/
def linesOf {α : Type} [BEq α] (feed carriage : α) (text : List α) : List (List α) :=
  let parts := text.splitOn feed
  let ended := parts.dropLast.map fun line =>
    if line.getLast? == some carriage then line.dropLast else line
  ended ++ parts.getLast?.toList.filter (!·.isEmpty)

def textLines (s : String) : List String := (linesOf '\n' '\r' s.toList).map String.ofList

def byteLines (bytes : List UInt8) : List (List UInt8) := linesOf 10 13 bytes

/-- How many of the bytes, from `i` on, are well-formed characters one after the other. -/
def wellFormedFrom (bytes : ByteArray) (i : Nat) : Nat :=
  if _h : i < bytes.size then
    match bytes.utf8DecodeChar? i with
    | some c =>
      have := c.utf8Size_pos
      wellFormedFrom bytes (i + c.utf8Size)
    | none => i
  else i
termination_by bytes.size - i

def decodeUtf8 (bytes : List UInt8) : Except Nat String :=
  match String.fromUTF8? bytes.toByteArray with
  | some s => .ok s
  | none => .error (wellFormedFrom bytes.toByteArray 0)

end GameShelf
