import GameShelf.Catalog.Reader
import GameShelf.LogFilter
import GameShelf.Shell
import GameShelf.Text.Basic

namespace GameShelf

structure Invocation where
  arguments : List String
  catalog : Option String
  logFilter : Option String

structure Settings where
  catalog : String
  logLevel : Option String
  json : Bool
  deriving DecidableEq

inductive Failure where
  | usage (e : UsageError)
  | logLevel (asked : String) (e : LogFilterError)
  | load (path : String) (e : Catalog.LoadError)
  | input
  deriving DecidableEq

inductive Ending where
  | done
  | failed (e : Failure)
  deriving DecidableEq

namespace Failure

def chain (message : String) (causes : List String) : String :=
  let told := match causes with
    | [cause] => ["    " ++ cause]
    | causes => causes.zipIdx.map fun (cause, n) => "    " ++ toString n ++ ": " ++ cause
  "\n".intercalate (["Error: " ++ message, "", "Caused by:"] ++ told)

def report : Failure → String
  | .usage e => e.message
  | .logLevel asked .malformed =>
    chain (LogFilter.invalidLevel asked) [LogFilterError.malformed.message]
  | .logLevel asked .badLevel =>
    chain (LogFilter.invalidLevel asked)
      [LogFilterError.badLevel.message, LogFilterError.badLevel.message]
  | .load path e => chain ("failed to load catalog " ++ path) [e.message, e.cause]
  | .input => chain "failed to read stdin" ["stream did not contain valid UTF-8"]

def code : Failure → Nat
  | .usage _ => 2
  | .logLevel _ _ | .load _ _ | .input => 1

end Failure

namespace Ending

def code : Ending → Nat
  | .done => 0
  | .failed e => e.code

def report : Ending → Option String
  | .done => none
  | .failed e => some e.report

end Ending

namespace Program

def catalogSlot : Slot := ⟨"catalog", "--catalog <CATALOG>", false⟩

def grammar : Grammar where
  topic := .program
  switches := [⟨"catalog", none, .take catalogSlot⟩,
    ⟨"log-level", none, .take ⟨"log-level", "--log-level <LOG_LEVEL>", true⟩⟩,
    ⟨"json", none, .raise⟩, .help, ⟨"version", some 'V', .version⟩]
  operands := .none
  negativeNumbers := false

/-- The settings in the arguments. A catalog among them goes before the environment's. -/
def readArguments (i : Invocation) : Except Refusal Settings := do
  let s ← Arguments.read grammar i.arguments
  let settings (catalog : String) : Settings := ⟨catalog, s.get? "log-level", s.has "json"⟩
  match s.get? "catalog", i.catalog with
  | some catalog, _ => return settings catalog
  | none, some catalog =>
    if catalog.isEmpty then throw (.misuse (.valueMissing catalogSlot.display))
    else return settings catalog
  | none, none => throw (.misuse (.argumentMissing catalogSlot.display))

def refuse (i : Invocation) : Refusal → String × Ending
  | .misuse e => ("", .failed (.usage e))
  | .help .program long => (programText (i.catalog.getD "") long ++ "\n", .done)
  | refusal => (refusal.message ++ "\n", .done)

def prepare (i : Invocation) : Except (String × Ending) Settings :=
  match readArguments i with
  | .error refusal => .error (refuse i refusal)
  | .ok settings =>
    match LogFilter.choose settings.logLevel i.logFilter with
    | .error e => .error ("", .failed (.logLevel (settings.logLevel.getD "") e))
    | .ok _ => .ok settings

def printed (text : String) : String := if text.isEmpty then "" else text ++ "\n"

/-- Runs a line: how it ends the program, or the shell behind it and what is printed. -/
def runLine {m : Type → Type} [Monad m] (write : String → String → m (Except FileError Unit))
    (s : Shell) (line : List UInt8) : m (Except Ending (Shell × String)) :=
  match decodeUtf8 line with
  | .error _ => return .error (.failed .input)
  | .ok text => do
    let (s, request) := s.execute text
    match ← request.fulfil write with
    | .leave => return .error .done
    | .say text => return .ok (s, printed text)

/-- Runs the lines up to one that leaves the shell or is no text: what is printed, the files, and
how it ended. -/
def runLines (s : Shell) (files : Files) : List (List UInt8) → String × Files × Ending
  | [] => ("", files, .done)
  | line :: rest =>
    match runLine Files.store s line files with
    | (.error ending, files) => ("", files, ending)
    | (.ok (s, text), files) =>
      let (output, files, ending) := runLines s files rest
      (text ++ output, files, ending)

def start {m : Type → Type} [Monad m]
    (read : String → m (Except FileError (Option ByteArray))) (i : Invocation) :
    m (Except (String × Ending) Shell) :=
  match prepare i with
  | .error refused => return .error refused
  | .ok settings => do
    match Catalog.ofOpened (← read settings.catalog) with
    | .error e => return .error ("", .failed (.load settings.catalog e))
    | .ok games => return .ok (.start games settings.json)

def run (i : Invocation) (files : Files) (input : List UInt8) : String × Files × Ending :=
  match start (m := Id) files.read i with
  | .error (output, ending) => (output, files, ending)
  | .ok s => runLines s files (byteLines input)

end Program
end GameShelf
