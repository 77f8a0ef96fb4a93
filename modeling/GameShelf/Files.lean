namespace GameShelf

inductive FileError where
  | notFound
  | notDirectory
  | isDirectory
  | nameTooLong
  | nulInName
  | other (text : String)
  deriving DecidableEq

def FileError.message : FileError → String
  | .notFound => "No such file or directory (os error 2)"
  | .notDirectory => "Not a directory (os error 20)"
  | .isDirectory => "Is a directory (os error 21)"
  | .nameTooLong => "File name too long (os error 36)"
  | .nulInName => "file name contained an unexpected NUL byte"
  | .other text => text

def FileError.report (e : FileError) : String := "i/o error: " ++ e.message

/-- Files by the names on the way to them. -/
structure Files where
  contents : List (List String × ByteArray)

/-- What a path leads to. `slashed` is a name with a slash behind it that no directory has. -/
inductive Place where
  | directory
  | name (key : List String)
  | slashed (key : List String)

namespace Files

def empty : Files := ⟨[]⟩

def get? (files : Files) (key : List String) : Option ByteArray := files.contents.lookup key

def isDirectory (files : Files) (key : List String) : Bool :=
  files.contents.any fun (other, _) => key.isPrefixOf other && key.length < other.length

def walk (files : Files) (here : List String) : List String → Except FileError Place
  | [] => .ok .directory
  | name :: rest =>
    let key := here ++ [name]
    if name = "" ∨ name = "." then files.walk here rest
    else if name = ".." then files.walk here.dropLast rest
    else if 255 < name.utf8ByteSize then .error .nameTooLong
    else if files.isDirectory key then files.walk key rest
    else if rest.isEmpty then .ok (.name key)
    else if rest.all (· == "") then .ok (.slashed key)
    else if (files.get? key).isSome then .error .notDirectory
    else .error .notFound

def locate (files : Files) (path : String) : Except FileError Place :=
  if path.toList.contains '\x00' then .error .nulInName
  else if 4096 ≤ path.utf8ByteSize then .error .nameTooLong
  else files.walk [] ((path.toList.splitOn '/').map String.ofList)

/-- The bytes of a file, `none` for a directory, which opens but has none. -/
def read (files : Files) (path : String) : Except FileError (Option ByteArray) := do
  match ← files.locate path with
  | .directory => return none
  | .name key =>
    match files.get? key with
    | some bytes => return some bytes
    | none => throw .notFound
  | .slashed key => throw (if (files.get? key).isSome then .notDirectory else .notFound)

def write (files : Files) (path : String) (text : String) : Except FileError Files := do
  match ← files.locate path with
  | .name key =>
    return ⟨(key, text.toUTF8) :: files.contents.filter fun (other, _) => other != key⟩
  | .directory | .slashed _ => throw .isDirectory

def store (path text : String) : StateM Files (Except FileError Unit) := fun files =>
  match files.write path text with
  | .ok written => (.ok (), written)
  | .error e => (.error e, files)

end Files
end GameShelf
