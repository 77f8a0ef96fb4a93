import GameShelf.Catalog.Error
import GameShelf.Text.Basic

namespace GameShelf.Catalog

def isAsciiBlank (b : UInt8) : Bool := b == 32 || b == 9 || b == 10 || b == 12 || b == 13

def fieldText (bytes : List UInt8) : Except Nat String :=
  (decodeUtf8 (trimBy isAsciiBlank bytes)).map trim

/-- The fields of a record, counted from `index`; an error has the field and the byte in it. -/
def fieldTexts (index : Nat) : List (List UInt8) → Except (Nat × Nat) (List String)
  | [] => .ok []
  | field :: fields => do
    let text ← (fieldText field).mapError fun at_ => (index, at_)
    return text :: (← fieldTexts (index + 1) fields)

def columnOfHeader? (header : String) : Option Column :=
  Column.all.find? fun c => c.header == header || c.headerAlias? == some header

/-- What the fields of every row hold. Rows of a `positional` catalog must have them all. -/
structure Layout where
  columns : List (Option Column)
  width : Nat
  positional : Bool

/-- The layout that a header gives. Where the header is no text, the fields are taken in the order
of the columns. -/
def Layout.ofHeader (header : List (List UInt8)) : Layout :=
  match fieldTexts 0 header with
  | .ok names => ⟨names.map columnOfHeader?, header.length, false⟩
  | .error _ => ⟨Column.all.map some, header.length, true⟩

def readIntegerField (text : String) : Except FieldError Int64 :=
  let digits := match text.toList with
    | '0' :: 'x' :: ds => readInteger .hexadecimal ds
    | ds => readInteger .decimal ds
  digits.mapError .integer

def readRealField (text : String) : Except FieldError Binary64 :=
  match Binary64.read? text with
  | some x => .ok x
  | none => .error (if text.isEmpty then .emptyReal else .invalidReal)

def readField (column : Column) (text : String) : Except FieldError Value :=
  match column with
  | .name => .ok (.string text)
  | .rating | .difficulty => (readRealField text).map .real
  | _ => (readIntegerField text).map .integer

def readCells (index : Nat) (cells : List (Column × Value)) :
    List (Option Column × String) → Except RowError (List (Column × Value))
  | [] => .ok cells
  | (none, _) :: rest => readCells (index + 1) cells rest
  | (some column, text) :: rest =>
    if (cells.lookup column).isSome then .error (.duplicate column)
    else match readField column text with
      | .error e => .error (.field index e)
      | .ok value => readCells (index + 1) ((column, value) :: cells) rest

def stringCell (cells : List (Column × Value)) (column : Column) : Except RowError String :=
  match cells.lookup column with
  | some (.string s) => .ok s
  | _ => .error (.missing column)

def integerCell (cells : List (Column × Value)) (column : Column) : Except RowError Int64 :=
  match cells.lookup column with
  | some (.integer n) => .ok n
  | _ => .error (.missing column)

def realCell (cells : List (Column × Value)) (column : Column) : Except RowError Binary64 :=
  match cells.lookup column with
  | some (.real x) => .ok x
  | _ => .error (.missing column)

def gameOfCells (cells : List (Column × Value)) : Except RowError Game := do
  return {
    name := ← stringCell cells .name
    id := ← integerCell cells .id
    rank := ← integerCell cells .rank
    minPlayers := ← integerCell cells .minPlayers
    maxPlayers := ← integerCell cells .maxPlayers
    minTime := ← integerCell cells .minTime
    maxTime := ← integerCell cells .maxTime
    year := ← integerCell cells .year
    rating := ← realCell cells .rating
    difficulty := ← realCell cells .difficulty }

def gameOfTexts (layout : Layout) (texts : List String) : Except RowError Game := do
  let cells ← readCells 0 [] (layout.columns.zip texts)
  if layout.positional && texts.length < layout.columns.length then throw (.tooShort texts.length)
  gameOfCells cells

def gameOfRecord (layout : Layout) (number : Nat) (record : Record) : Except Error Game :=
  let place : RecordLocation := ⟨number, record.start⟩
  if record.fields.length ≠ layout.width then
    .error (.unequalLengths place layout.width record.fields.length)
  else match fieldTexts 0 record.fields with
    | .error (field, index) => .error (.invalidUtf8 place field index)
    | .ok texts => (gameOfTexts layout texts).mapError (.row place)

def gamesOfRecords (layout : Layout) (number : Nat) : List Record → Except Error (List Game)
  | [] => .ok []
  | record :: records => do
    let game ← gameOfRecord layout number record
    return game :: (← gamesOfRecords layout (number + 1) records)

def read (bytes : List UInt8) : Except Error (List Game) :=
  match records bytes with
  | [] => .ok []
  | header :: rows => gamesOfRecords (.ofHeader header.fields) 1 rows

inductive LoadError where
  | file (e : FileError)
  | content (e : Error)
  deriving DecidableEq

def LoadError.message : LoadError → String
  | .file e => e.report
  | .content e => e.message

def LoadError.cause : LoadError → String
  | .file e => e.message
  | .content e => e.cause

/-- The catalog in what an opened file gave; a directory opens but cannot be read. -/
def ofOpened : Except FileError (Option ByteArray) → Except LoadError (List Game)
  | .error e => .error (.file e)
  | .ok none => .error (.content (.unreadable .isDirectory))
  | .ok (some bytes) => (read bytes.data.toList).mapError .content

def load (files : Files) (path : String) : Except LoadError (List Game) :=
  ofOpened (files.read path)

end GameShelf.Catalog
