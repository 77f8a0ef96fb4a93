import GameShelf.Binary64.Decimal

namespace GameShelf.Binary64

inductive Tie where
  | up
  | even

/-- Digits behind an imagined point, and how far the point stands to their right: the number
`0.d₁d₂… * 10 ^ point`. The last digit is not zero. -/
structure Digits where
  digits : List Char
  point : Int

/-- The least `point` with the value of `u` units below `10 ^ point`; no double has 400 zeros
behind its point. -/
def pointOf (u : Nat) : Int :=
  (Decimal.decimalLength (u * Decimal.powerOfTen 400 / unitsInOne) : Int) - 400

/-- The multiple of `10 ^ exponent` written for magnitude `m`, if one of the two around it reads
back as `m`; of two that do, the nearer. -/
def onGrid? (tie : Tie) (m : Nat) (exponent : Int) : Option Nat :=
  let num := unitsOf m * Decimal.powerOfTen (-exponent).toNat
  let den := unitsInOne * Decimal.powerOfTen exponent.toNat
  let low := num / den
  let rest := num % den
  let back (n : Nat) : Bool := Decimal.magnitude n exponent == m
  let takeLow := match compare (2 * rest) den, tie with
    | .lt, _ => true
    | .gt, _ => false
    | .eq, .up => false
    | .eq, .even => low % 2 == 0
  match back low, back (low + 1) with
  | true, true => some (if takeLow then low else low + 1)
  | true, false => some low
  | false, true => some (low + 1)
  | false, false => none

def exactDecimal (u : Nat) : Nat × Int := (u * Nat.pow 5 1074, -1074)

/-- The decimal with the fewest digits that reads back as magnitude `m`. Seventeen digits suffice
for every double. -/
def shortestDecimal (tie : Tie) (m : Nat) : Nat × Int :=
  let point := pointOf (unitsOf m)
  let attempt (n : Nat) : Option (Nat × Int) :=
    let exponent := point - (n + 1)
    (onGrid? tie m exponent).map fun c => (c, exponent)
  ((List.range 17).findSome? attempt).getD (exactDecimal (unitsOf m))

def Digits.ofDecimal (coefficient : Nat) (exponent : Int) : Digits :=
  let ds := Nat.toDigits 10 coefficient
  ⟨(ds.reverse.dropWhile (· == '0')).reverse, ds.length + exponent⟩

def shortestDigits (tie : Tie) (m : Nat) : Digits :=
  let d := shortestDecimal tie m
  .ofDecimal d.1 d.2

end GameShelf.Binary64
