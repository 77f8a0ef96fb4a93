import GameShelf.Binary64.Shortest

namespace GameShelf.Binary64

def positional (whole : List Char) (d : Digits) : List Char :=
  let n := d.digits.length
  if d.point ≤ 0 then '0' :: '.' :: (List.replicate (-d.point).toNat '0' ++ d.digits)
  else if (n : Int) ≤ d.point then d.digits ++ List.replicate (d.point.toNat - n) '0' ++ whole
  else d.digits.take d.point.toNat ++ '.' :: d.digits.drop d.point.toNat

def scientific (d : Digits) : List Char :=
  let exponent := d.point - 1
  let sign := if exponent < 0 then '-' else '+'
  let mantissa := match d.digits with
    | [] => ['0']
    | [c] => [c]
    | c :: cs => c :: '.' :: cs
  mantissa ++ 'e' :: sign :: Nat.toDigits 10 exponent.natAbs

def signChars (x : Binary64) : List Char := if x.isNegative then ['-'] else []

/-- The fewest digits that read back, never with an exponent. -/
def display (x : Binary64) : String :=
  if x.isNaN then "NaN"
  else if !x.isFinite then String.ofList (x.signChars ++ ['i', 'n', 'f'])
  else if x.magnitude = 0 then String.ofList (x.signChars ++ ['0'])
  else String.ofList (x.signChars ++ positional [] (shortestDigits .up x.magnitude))

def displayHundredths (x : Binary64) : String :=
  if x.isNaN then "NaN"
  else if !x.isFinite then String.ofList (x.signChars ++ ['i', 'n', 'f'])
  else
    let n := roundDiv (unitsOf x.magnitude * 100) unitsInOne
    let places := Nat.toDigits 10 (100 + n % 100)
    String.ofList (x.signChars ++ Nat.toDigits 10 (n / 100) ++ '.' :: places.drop 1)

/-- The number in a JSON text: the fewest digits that read back, positional from `10 ^ -5` up to
`10 ^ 16`, with a fraction or an exponent always. JSON has no other numbers than finite ones. -/
def displayJson? (x : Binary64) : Option String :=
  if !x.isFinite then none
  else if x.magnitude = 0 then some (String.ofList (x.signChars ++ ['0', '.', '0']))
  else
    let d := shortestDigits .even x.magnitude
    let text := if -5 < d.point ∧ d.point ≤ 16 then positional ['.', '0'] d else scientific d
    some (String.ofList (x.signChars ++ text))

end GameShelf.Binary64
