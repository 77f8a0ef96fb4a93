namespace GameShelf

inductive IntegerError where
  | empty
  | invalidDigit
  | tooLarge
  | tooSmall
  deriving DecidableEq

def IntegerError.message : IntegerError → String
  | .empty => "cannot parse integer from empty string"
  | .invalidDigit => "invalid digit found in string"
  | .tooLarge => "number too large to fit in target type"
  | .tooSmall => "number too small to fit in target type"

inductive Radix where
  | decimal
  | hexadecimal

def Radix.size : Radix → Nat
  | .decimal => 10
  | .hexadecimal => 16

def Radix.digit? (radix : Radix) (c : Char) : Option Nat :=
  let n := c.toLower.toNat
  let value :=
    if c.isDigit then n - 48 else if 97 ≤ n && n ≤ 122 then n - 87 else radix.size
  if value < radix.size then some value else none

/-- Reads digits onto `n`, where nothing above `limit` may be reached. -/
def readDigits (radix : Radix) (limit : Nat) (overflow : IntegerError) :
    Nat → List Char → Except IntegerError Nat
  | n, [] => .ok n
  | n, c :: cs =>
    match radix.digit? c with
    | none => .error .invalidDigit
    | some d =>
      if limit < n * radix.size + d then .error overflow
      else readDigits radix limit overflow (n * radix.size + d) cs

def integerLimit : Nat := 9223372036854775807

def readInteger (radix : Radix) (cs : List Char) : Except IntegerError Int64 :=
  match cs with
  | [] => .error .empty
  | ['+'] | ['-'] => .error .invalidDigit
  | '-' :: ds => (readDigits radix (integerLimit + 1) .tooSmall 0 ds).map fun n => Int64.ofInt (-n)
  | '+' :: ds | ds => (readDigits radix integerLimit .tooLarge 0 ds).map fun n => Int64.ofInt n

def displayInteger (n : Int64) : String := toString n.toInt

end GameShelf
