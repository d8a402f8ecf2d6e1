import ClangAccess.Path

namespace ClangAccess

/-- Why a tool or a discovery source failed. The search for libclang goes on after each of these. -/
inductive ProbeError where
  | spawn (program : Path) (reason : String)
  | timedOut (program : Path) (microseconds : Nat)
  | toolFailed (command status output : String)
  | unparseableVersion (program : Path) (output : String)
  /-- The tool ran, but where it is installed tells of no library directory. -/
  | layout (program : Path) (reason : String)
  deriving DecidableEq, Repr

def ProbeError.message : ProbeError → String
  | .spawn program reason => s!"could not run {program.display}: {reason}"
  | .timedOut program microseconds => s!"{program.display} timed out after {microseconds / 1000}ms"
  | .toolFailed command status output => s!"command failed with status {status}: {command}\noutput was:\n{output}"
  | .unparseableVersion program output =>
    s!"{program.display} reported an unrecognised version: {quoted output}"
  | .layout program reason => s!"unexpected install layout around {program.display}: {reason}"

/-- A discovery source that gave nothing, and why. -/
structure Attempt where
  source : String
  reason : String
  deriving DecidableEq, Repr

def Attempt.line (a : Attempt) : String := s!"\n  {a.source}: {a.reason}"

/-- Why libclang could not be found, opened or used. -/
inductive ClangError where
  | discoveryExhausted (attempts : List Attempt)
  | libraryNotFound (path : Path)
  | libraryLoad (path : Path) (reason : String)
  | backendConflict (active requested : Path)
  | fileNotFound (path : Path)
  /-- There is no unit to hand out; `diagnostics` is the report on what a broken one left behind. -/
  | parseFailed (file : Path) (reason diagnostics : String)
  deriving DecidableEq, Repr

def ClangError.message : ClangError → String
  | .discoveryExhausted attempts =>
    "could not find a suitable libclang directory" ++
      if attempts.isEmpty then "" else "; tried:" ++ String.join (attempts.map Attempt.line)
  | .libraryNotFound path => s!"libclang not found: {path.display}"
  | .libraryLoad path reason => s!"failed to load libclang from {path.display}: {reason}"
  | .backendConflict active requested =>
    s!"libclang is already configured as {active.display}, refusing to switch to {requested.display}"
  | .fileNotFound path => s!"file not found: {path.display}"
  | .parseFailed file reason diagnostics => s!"{file.display}: parse error: {reason}\n{diagnostics}"

end ClangAccess
