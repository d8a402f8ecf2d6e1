import ClangAccess.CommandLine.Reading
import ClangAccess.Log
import ClangAccess.ParseOptions

namespace ClangAccess

/-- A request to parse one file. -/
structure ParseRequest where
  file : Path
  incomplete : Bool := false
  keepFunctionBodies : Bool := false
  noDetailedRecords : Bool := false
  clangArgs : List String := []
  deriving DecidableEq, Repr

def ParseRequest.options (p : ParseRequest) : ParseOptions :=
  ((ParseOptions.default.set .incomplete p.incomplete).set .skipFunctionBodies !p.keepFunctionBodies).set
    .detailedPreprocessingRecord !p.noDetailedRecords

inductive Action where
  | locate (json : Bool)
  | parse (request : ParseRequest)
  deriving DecidableEq, Repr

/-- A command line understood: what to do, where libclang is said to be, how much to tell. -/
structure Invocation where
  logLevel : LogLevel
  libclangDir : Option Path
  action : Action
  deriving DecidableEq, Repr

namespace Invocation

/-- The level for some `-v` and some `-q`, counted from `info`. -/
def verbosity (verbose quiet : Nat) : LogLevel := .ofRank (LogLevel.info.rank + verbose - quiet)

/-- The last component of the path under which the program was started. -/
def programName? (argument : Bytes) : Option String :=
  match ((Path.segments argument).filter fun s => !s.isEmpty && s ≠ [Path.dot]).getLast? with
  | none => none
  | some last => if last = [Path.dot, Path.dot] then none else Bytes.text? last

/-- The help that `help` prints for the commands after it. -/
def helpFor (startedAs : Option String) : Level → List Bytes → Stop
  | level, [] => .help (Help.text ⟨level, startedAs⟩)
  | level, argument :: rest =>
    match if level = .program then Level.command? argument else none with
    | some command => helpFor startedAs command rest
    | none => .refused (.unknownCommand argument.lossy) [] (some (Addressee.usage ⟨level, startedAs⟩))

/-- What the levels say together. An option that both know counts as the inner one gives it, if it does. -/
def combine (outer inner : Reading) (action : Action) : Invocation where
  logLevel := verbosity (if inner.has .verbose then inner.verbose else outer.verbose)
    (if inner.has .quiet then inner.quiet else outer.quiet)
  libclangDir := if inner.has .libclangDir then inner.libclangDir else outer.libclangDir
  action := action

/-- The action of a command that has been read. -/
def commanded (command : Level) (r : Reading) : Action :=
  match command, r.file with
  | .parse, some file =>
    .parse
      { file, incomplete := r.has .incomplete, keepFunctionBodies := r.has .keepFunctionBodies,
        noDetailedRecords := r.has .noDetailedRecords, clangArgs := r.clangArgs }
  | _, _ => .locate (r.has .json)

/-- A command's own arguments, from the first to the last check. -/
def readCommand (startedAs : Option String) (command : Level) (arguments : List Bytes) : Except Stop Reading := do
  let (r, _) ← Reading.arguments ⟨command, startedAs⟩ {} arguments
  r.finish ⟨command, startedAs⟩

/-- Read a whole command line, the program's name first. -/
def ofArguments (arguments : List Bytes) : Except Stop Invocation := do
  let startedAs := arguments.head?.bind programName?
  let program : Addressee := ⟨.program, startedAs⟩
  let (outer, found) ← Reading.arguments program {} arguments.tail
  match found with
  | some (.help, rest) => .error (helpFor startedAs .program rest)
  | some (command, rest) =>
    let inner ← readCommand startedAs command rest
    let outer ← outer.finish program
    return combine outer inner (commanded command inner)
  | none => .error (outer.uncommanded program)

end Invocation

end ClangAccess
