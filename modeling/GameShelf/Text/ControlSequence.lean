namespace GameShelf

def isLayout (c : Char) : Bool := c == '\t' || c == '\n' || c == '\x0c' || c == '\r'

def isGraphic (c : Char) : Bool := ' ' ≤ c && c ≤ '~'

/-- Characters that are shown outside control sequences: all but the control characters of ASCII
that lay nothing out. -/
def isPlain (c : Char) : Bool := isLayout c || isGraphic c || '\x7f' < c

inductive ControlSequence where
  | escape
  | intermediate
  | function
  | command
  | string
  deriving DecidableEq

namespace ControlSequence

/-- Strings hold layout like any other character; elsewhere it ends the sequence. -/
def isString : ControlSequence → Bool
  | .command | .string => true
  | _ => false

def afterGraphic : ControlSequence → Char → Option ControlSequence
  | .escape, c =>
    if c < '0' then some .intermediate
    else if c = '[' then some .function
    else if c = ']' then some .command
    else if c = 'P' ∨ c = 'X' ∨ c = '^' ∨ c = '_' then some .string
    else none
  | .intermediate, c => if c < '0' then some .intermediate else none
  | .function, c => if c < '@' then some .function else none
  | .command, _ => some .command
  | .string, _ => some .string

/-- The sequence that stands open behind a character which neither opens nor cancels one. -/
def after (s : ControlSequence) (c : Char) : Option ControlSequence :=
  if isGraphic c then s.afterGraphic c
  else if isLayout c && !s.isString then none
  else if c = '\x07' ∧ s = .command then none
  else some s

/-- The sequence that stands open behind a character: an escape opens one anywhere, a cancel or a
substitute closes any. -/
def step (s : Option ControlSequence) (c : Char) : Option ControlSequence :=
  if c = '\x1b' then some .escape
  else if c = '\x18' ∨ c = '\x1a' then none
  else s.bind (·.after c)

def shows : Option ControlSequence → Char → Bool
  | none, c => isPlain c
  | some s, c => isLayout c && !s.isString

end ControlSequence

def shownAfter (s : Option ControlSequence) : List Char → List Char
  | [] => []
  | c :: cs =>
    if ControlSequence.shows s c then c :: shownAfter (ControlSequence.step s c) cs
    else shownAfter (ControlSequence.step s c) cs

def shownText (s : String) : String := String.ofList (shownAfter none s.toList)

end GameShelf
