import GameShelf.Binary64.Basic

namespace GameShelf

/-- The number `coefficient * 10 ^ exponent`, with a sign that zero has too. -/
structure Decimal where
  negative : Bool
  coefficient : Nat
  exponent : Int
  deriving DecidableEq

def digitsValue (ds : List Char) : Nat := ds.foldl (fun n d => 10 * n + (d.toNat - 48)) 0

def splitSign : List Char → Bool × List Char
  | '-' :: cs => (true, cs)
  | '+' :: cs => (false, cs)
  | cs => (false, cs)

def readExponent? (cs : List Char) : Option Int :=
  let (negative, ds) := splitSign cs
  if ds.isEmpty || !ds.all Char.isDigit then none
  else some (if negative then -(digitsValue ds : Int) else digitsValue ds)

namespace Decimal

def splitFraction : List Char → List Char × List Char
  | '.' :: cs => (cs.takeWhile Char.isDigit, cs.dropWhile Char.isDigit)
  | cs => ([], cs)

/-- Reads digits with at most one point among them and an exponent after `e` or `E` if wished. At
least one digit is needed beside the exponent. -/
def readUnsigned? (negative : Bool) (cs : List Char) : Option Decimal :=
  let whole := cs.takeWhile Char.isDigit
  let (fraction, rest) := splitFraction (cs.dropWhile Char.isDigit)
  if whole.isEmpty && fraction.isEmpty then none
  else
    let coefficient := digitsValue (whole ++ fraction)
    let shift : Int := fraction.length
    match rest with
    | [] => some ⟨negative, coefficient, -shift⟩
    | e :: rest =>
      if e = 'e' || e = 'E' then
        (readExponent? rest).map fun exponent => ⟨negative, coefficient, exponent - shift⟩
      else none

def powerOfTen (n : Nat) : Nat := Nat.pow 10 n

def decimalLength (n : Nat) : Nat := (Nat.toDigits 10 n).length

/-- The magnitude nearest to `coefficient * 10 ^ exponent`. Numbers of `10 ^ 310` and more are
beyond every double, those below `10 ^ -324` are nearest to zero. -/
def magnitude (coefficient : Nat) (exponent : Int) : Nat :=
  let point := decimalLength coefficient + exponent
  if coefficient = 0 || point < -323 then 0
  else if 310 < point then Binary64.infinityMagnitude
  else
    Binary64.nearest (coefficient * powerOfTen exponent.toNat * Binary64.unitsInOne)
      (powerOfTen (-exponent).toNat)

def toBinary64 (d : Decimal) : Binary64 :=
  .ofMagnitude d.negative (magnitude d.coefficient d.exponent)

end Decimal

namespace Binary64

def special? (cs : List Char) : Option Nat :=
  match String.ofList (cs.map Char.toLower) with
  | "inf" | "infinity" => some infinityMagnitude
  | "nan" => some nan.magnitude
  | _ => none

def read? (s : String) : Option Binary64 :=
  let (negative, cs) := splitSign s.toList
  match Decimal.readUnsigned? negative cs with
  | some d => some d.toBinary64
  | none => (special? cs).map (ofMagnitude negative)

end Binary64
end GameShelf
