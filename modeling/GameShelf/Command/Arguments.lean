import GameShelf.Binary64.Decimal
import GameShelf.Command.Basic

namespace GameShelf

structure Slot where
  key : String
  display : String
  blankAllowed : Bool

inductive Effect where
  | raise
  | take (slot : Slot)
  | help
  | version

structure Switch where
  long : String
  letter : Option Char
  effect : Effect

def Switch.help : Switch := ⟨"help", some 'h', .help⟩

inductive Operands where
  | none
  | one (slot : Slot)
  | many

structure Grammar where
  topic : Topic
  switches : List Switch
  operands : Operands
  /-- Whether a word such as `-1` or `-2.5e3` is an operand. -/
  negativeNumbers : Bool

/-- What has been read: operands, settings by key, and a slot that waits for its value or has one
not yet settled. -/
structure Arguments where
  words : List String
  settings : List (String × String)
  pending : Option (Slot × Option String)

def isNumber (cs : List Char) : Bool :=
  !(cs.takeWhile Char.isDigit).isEmpty &&
    match (Decimal.splitFraction (cs.dropWhile Char.isDigit)).2 with
    | [] => true
    | c :: ds => (c == 'e' || c == 'E') && !ds.isEmpty && ds.all Char.isDigit

namespace Arguments

def has (s : Arguments) (key : String) : Bool := s.settings.any (·.1 == key)

def get? (s : Arguments) (key : String) : Option String := s.settings.lookup key

/-- Sets the slot that is pending. Every slot is set once at most. -/
def settle (s : Arguments) : Except Refusal Arguments :=
  match s.pending with
  | none => .ok s
  | some (slot, none) => .error (.misuse (.valueMissing slot.display))
  | some (slot, some value) =>
    if s.has slot.key then .error (.misuse (.repeated slot.display))
    else if value.isEmpty && !slot.blankAllowed then
      .error (.misuse (.valueMissing slot.display))
    else .ok { s with pending := none, settings := s.settings ++ [(slot.key, value)] }

def attach (s : Arguments) (slot : Slot) (value : String) : Except Refusal Arguments := do
  let s ← s.settle
  { s with pending := some (slot, some value) }.settle

def react (g : Grammar) (s : Arguments) (switch : Switch) (long : Bool) :
    Except Refusal Arguments := do
  let s ← s.settle
  match switch.effect with
  | .help => throw (.help g.topic long)
  | .version => throw .version
  | .take slot => return { s with pending := some (slot, none) }
  | .raise =>
    if s.has switch.long then throw (.misuse (.repeated ("--" ++ switch.long)))
    else return { s with settings := s.settings ++ [(switch.long, "")] }

def operand (g : Grammar) (s : Arguments) (word : String) : Except Refusal Arguments :=
  match g.operands with
  | .none => .error (.misuse (.unexpectedArgument word))
  | .many => s.settle.map fun s => { s with words := s.words ++ [word] }
  | .one slot =>
    if s.has slot.key || s.pending.any (·.1.key == slot.key) then
      .error (.misuse (.unexpectedArgument word))
    else s.settle.map fun s => { s with pending := some (slot, some word) }

def long (g : Grammar) (s : Arguments) (name : String) (value : Option String) :
    Except Refusal Arguments :=
  match g.switches.find? (·.long == name) with
  | none => .error (.misuse (.unexpectedArgument ("--" ++ name)))
  | some switch =>
    match value, switch.effect with
    | none, _ => s.react g switch true
    | some value, .take slot => s.attach slot value
    | some value, _ => .error (.misuse (.unwantedValue value ("--" ++ name)))

/-- Options by their letters. The value of an option is the rest of the word, with an equals sign
before it if wished, or else the next word. -/
def cluster (g : Grammar) (s : Arguments) : List Char → Except Refusal Arguments
  | [] => .ok s
  | c :: cs =>
    match g.switches.find? (·.letter == some c) with
    | none => .error (.misuse (.unexpectedArgument (String.ofList ['-', c])))
    | some switch =>
      match switch.effect, cs with
      | .take slot, '=' :: cs => s.attach slot (String.ofList cs)
      | .take slot, c :: cs => s.attach slot (String.ofList (c :: cs))
      | _, cs => do cluster g (← s.react g switch false) cs

def plain (g : Grammar) (s : Arguments) (word : String) : Except Refusal Arguments :=
  match s.pending with
  | some (slot, none) => .ok { s with pending := some (slot, some word) }
  | _ => s.operand g word

def step (g : Grammar) (s : Arguments) (word : String) : Except Refusal Arguments :=
  match word.toList with
  | '-' :: '-' :: cs =>
    let name := String.ofList (cs.takeWhile (· != '='))
    match cs.dropWhile (· != '=') with
    | [] => s.long g name none
    | _ :: value => s.long g name (some (String.ofList value))
  | '-' :: c :: cs =>
    if g.negativeNumbers && isNumber (c :: cs) then s.plain g word else s.cluster g (c :: cs)
  | _ => s.plain g word

def readOn (g : Grammar) (s : Arguments) : List String → Except Refusal Arguments
  | [] => s.settle
  | word :: words =>
    if word = "--" then do (← words.foldlM (operand g) s).settle
    else do readOn g (← s.step g word) words

def read (g : Grammar) (words : List String) : Except Refusal Arguments :=
  readOn g ⟨[], [], none⟩ words

end Arguments
end GameShelf
