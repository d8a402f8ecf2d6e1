import ClangAccess.CommandLine.Invocation
import ClangAccess.Locator
import ClangAccess.Session
import ClangAccess.Site

namespace ClangAccess

inductive Colour where
  | red
  | yellow
  deriving DecidableEq, Repr

/-- Where error output goes, and what a text becomes there that is written in a colour. -/
structure ErrorStream where
  isTerminal : Bool
  coloured : Colour → String → String

/-- A file or a pipe. -/
def ErrorStream.plain : ErrorStream := ⟨false, fun _ text => text⟩

/-- What a run of the program leaves behind. -/
structure ProgramRun where
  exitCode : Nat
  stdout : String
  stderr : String
  process : Process

namespace ProgramRun

/-- A record as it is written to standard error. -/
def recordText (r : Record) : String := r.level.label ++ ":\n" ++ r.text ++ "\n"

/-- Everything in a log that is told at some level. -/
def logText (verbosity : LogLevel) (p : Process) : String :=
  String.join ((Record.admitted verbosity p.log.toList).map recordText)

/-- A run that fails before it has anything to print. -/
def failed (verbosity : LogLevel) (message : String) (p : Process) : ProgramRun :=
  ⟨1, "", logText verbosity p ++ "Error: " ++ message ++ "\n", p⟩

/-- The line for one declaration of a file. -/
def declarationLine (file : Path) (line : UInt32) (kindName spelling : String) : String :=
  s!"{file.display}:{line}: {kindName} {spelling}\n"

/-- The lines for those of some nodes that stand in the main file. -/
def declarations (file : Path) : List Entity → Usage String
  | [] => return ""
  | e :: rest => do
    if ← e.isInMainFile then
      let location ← e.location
      let kindName ← e.kindName
      let spelling ← e.spelling
      let line := (location.map SourceLocation.line).getD 0
      return declarationLine file line kindName spelling ++ (← declarations file rest)
    else declarations file rest

/-- List what a unit declares at its top. -/
def listing (file : Path) (u : ParsedUnit) : Usage String := do
  declarations file (← (← u.root).children)

/-- Print what was found. -/
def showToolchain (verbosity : LogLevel) (json : Bool) (t : Toolchain) (p : Process) : ProgramRun :=
  if json then
    match t.json with
    | .ok text => ⟨0, text ++ "\n", logText verbosity p, p⟩
    | .error e => failed verbosity e.message p
  else ⟨0, t.summary, logText verbosity p, p⟩

/-- Bind the process to the library of a directory and parse with it. -/
def parseWith (view : FileView) (dir : Path) (request : ParseRequest) : Work ParsedUnit := do
  let (result, _) ← Session.configure view {} dir
  let backend ← liftExcept result
  Session.parse view backend request.file request.clangArgs request.options
where
  liftExcept (result : Except ClangError Backend) : Work Backend := ExceptT.mk (pure result)

/-- The report of a unit as it is written, on a terminal in the colour of errors or of warnings. A unit without
diagnostics has none. -/
def shownReport (stream : ErrorStream) (u : ParsedUnit) : String :=
  if u.diagnostics.isEmpty then ""
  else if stream.isTerminal then
    stream.coloured (if u.hasErrors then .red else .yellow) (report u.diagnostics)
  else report u.diagnostics

/-- Print the report and the declarations of a unit. A unit with errors makes the program end at once, and
then nothing is released. -/
def showUnit (stream : ErrorStream) (verbosity : LogLevel) (file : Path) (u : ParsedUnit) (p : Process) : ProgramRun :=
  let (stdout, p) := p.use (listing file u)
  let stderr := logText verbosity p ++ shownReport stream u
  if u.hasErrors then ⟨1, stdout, stderr, p⟩
  else ⟨0, stdout, stderr, (p.use u.release).2⟩

/-- Do what a command line asks for. -/
def perform (stream : ErrorStream) (host : Host) (view : FileView) (i : Invocation) : ProgramRun :=
  let locator := Locator.withExplicitDir {} i.libclangDir
  let account := (locator.locate i.logLevel host.toPlatform).conduct host
  let p := Process.tell {} account.log
  match account.result with
  | .error e => failed i.logLevel e.message p
  | .ok toolchain =>
    match i.action with
    | .locate json => showToolchain i.logLevel json toolchain p
    | .parse request =>
      match (parseWith view toolchain.libraryDir request).run.run p with
      | (.ok u, p) => showUnit stream i.logLevel request.file u p
      | (.error e, p) => failed i.logLevel e.message p

end ProgramRun

/-- Run the program with some arguments, its own name first. -/
def runProgramOn (stream : ErrorStream) (host : Host) (view : FileView) (arguments : List Bytes) : ProgramRun :=
  match Invocation.ofArguments arguments with
  | .ok i => ProgramRun.perform stream host view i
  | .error stop =>
    if stop.exitCode = 0 then ⟨0, stop.text, "", {}⟩ else ⟨stop.exitCode, "", stop.text, {}⟩

/-- Run the program where error output does not go to a terminal. -/
def runProgram : Host → FileView → List Bytes → ProgramRun := runProgramOn .plain

end ClangAccess
