import GameShelf.Program

namespace GameShelf

def fileError : IO.Error → FileError
  | .noFileOrDirectory _ _ _ => .notFound
  | .noSuchThing _ _ _ => .notFound
  | .inappropriateType _ code _ => if code = 20 then .notDirectory else .isDirectory
  | e => .other (toString e)

/-- What a directory has to give when it is read like a file: nothing. -/
def readHandle (handle : IO.FS.Handle) : IO (Option ByteArray) := do
  try return some (← handle.readBinToEnd)
  catch _ => return none

def readFile (path : String) : IO (Except FileError (Option ByteArray)) := do
  try return .ok (← readHandle (← IO.FS.Handle.mk path .read))
  catch e => return .error (fileError e)

def writeFile (path text : String) : IO (Except FileError Unit) := do
  try
    IO.FS.writeFile path text
    return .ok ()
  catch e => return .error (fileError e)

def finish (ending : Ending) : IO UInt32 := do
  match ending.report with
  | none => pure ()
  | some report => IO.eprintln report
  return UInt32.ofNat ending.code

partial def readLine (input : IO.FS.Stream) (line : ByteArray) : IO ByteArray := do
  let bytes ← input.read 1
  let line := line ++ bytes
  if bytes.isEmpty || bytes.data.contains 10 then return line
  readLine input line

partial def runShell (s : Shell) (input output : IO.FS.Stream) (prompt : Bool) : IO UInt32 := do
  if prompt then
    output.putStr "meeple> "
    output.flush
  match byteLines (← readLine input .empty).data.toList with
  | [] => finish .done
  | line :: _ =>
    match ← Program.runLine writeFile s line with
    | .error ending => finish ending
    | .ok (s, text) =>
      output.putStr text
      output.flush
      runShell s input output prompt

end GameShelf

open GameShelf

def main (arguments : List String) : IO UInt32 := do
  let invocation : Invocation :=
    ⟨arguments, ← IO.getEnv "MEEPLE_CATALOG", ← IO.getEnv "RUST_LOG"⟩
  match ← Program.start readFile invocation with
  | .error (output, ending) =>
    IO.print output
    finish ending
  | .ok s =>
    let input ← IO.getStdin
    runShell s input (← IO.getStdout) (← input.isTty)
