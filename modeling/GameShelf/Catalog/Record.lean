namespace GameShelf.Catalog

/-- A place in the bytes: the line counts from one, the byte from zero. -/
structure Location where
  line : Nat
  byte : Nat
  deriving DecidableEq

/-- A record and where its reading began, which is before the empty lines above it. -/
structure Record where
  start : Location
  fields : List (List UInt8)
  deriving DecidableEq

inductive Mode where
  | between
  | fieldStart
  | bare
  | quoted
  /-- Behind a quote within quotes, which ends them or is the first half of a written quote. -/
  | quote
  deriving DecidableEq

/-- A reader amid the bytes. The field, fields and records read so far are reversed. -/
structure Scan where
  mode : Mode
  here : Location
  start : Location
  field : List UInt8
  fields : List (List UInt8)
  records : List Record

namespace Scan

def lineFeed : UInt8 := 10
def carriageReturn : UInt8 := 13
def doubleQuote : UInt8 := 34
def comma : UInt8 := 44

def isLineEnd (b : UInt8) : Bool := b == lineFeed || b == carriageReturn

def begin (here : Location) : Scan := ⟨.between, here, ⟨1, 0⟩, [], [], []⟩

def take (s : Scan) (mode : Mode) (b : UInt8) : Scan := { s with mode, field := b :: s.field }

def endField (s : Scan) : Scan :=
  { s with mode := .fieldStart, field := [], fields := s.field.reverse :: s.fields }

def endRecord (s : Scan) : Scan :=
  let s := s.endField
  { s with mode := .between, start := s.here, fields := [],
           records := ⟨s.start, s.fields.reverse⟩ :: s.records }

def bare (s : Scan) (b : UInt8) : Scan :=
  if b == comma then s.endField
  else if isLineEnd b then s.endRecord
  else s.take .bare b

def atFieldStart (s : Scan) (b : UInt8) : Scan :=
  if b == doubleQuote then { s with mode := .quoted } else s.bare b

def pass (here : Location) (b : UInt8) : Location :=
  ⟨if b == lineFeed then here.line + 1 else here.line, here.byte + 1⟩

def step (s : Scan) (b : UInt8) : Scan :=
  let s := { s with here := pass s.here b }
  match s.mode with
  | .between => if isLineEnd b then s else s.atFieldStart b
  | .fieldStart => s.atFieldStart b
  | .bare => s.bare b
  | .quoted => if b == doubleQuote then { s with mode := .quote } else s.take .quoted b
  | .quote => if b == doubleQuote then s.take .quoted b else s.bare b

def finish (s : Scan) : List Record :=
  if s.mode = .between then s.records.reverse else s.endRecord.records.reverse

end Scan

/-- The records in the bytes. A byte order mark in front is passed over. -/
def records (bytes : List UInt8) : List Record :=
  match bytes with
  | 0xEF :: 0xBB :: 0xBF :: rest => (rest.foldl Scan.step (.begin ⟨1, 3⟩)).finish
  | _ => (bytes.foldl Scan.step (.begin ⟨1, 0⟩)).finish

end GameShelf.Catalog
