import ClangAccess.Library.Entity
import ClangAccess.ParseOptions
import ClangAccess.Process

namespace ClangAccess

/-- A parsed file: the unit that libclang handed back, the index that was made for it, and a copy of its
diagnostics. Both have to be released in the end. -/
structure ParsedUnit where
  library : Library
  index : Nat
  unit : Nat
  rootNode : ForeignNode
  file : Path
  diagnostics : List Diagnostic

namespace ParsedUnit

def hasErrors (u : ParsedUnit) : Bool := anyError u.diagnostics

def root (u : ParsedUnit) : Usage Entity := do
  u.library.touch u.unit
  return ⟨u.library, u.unit, u.rootNode⟩

/-- The outline of the whole tree. -/
def outline (u : ParsedUnit) : Usage Outline := do
  (← u.root).outline u.rootNode.height

/-- The unit goes before the index that it was made with. -/
def release (u : ParsedUnit) : Usage Unit := do
  u.library.disposeUnit u.unit
  u.library.disposeIndex u.index

def debugText (u : ParsedUnit) : String :=
  recordText "ParsedUnit"
    [("file", u.file.quoted), ("diagnostics", bracketed (u.diagnostics.map Diagnostic.debugText))]

end ParsedUnit

/-- Where a text holds its first zero byte. -/
def nulPosition? (s : String) : Option Nat :=
  (Bytes.ofText s).findIdx? (· = 0)

/-- Open the library of a backend, unless that has been tried; then what came of it stands. -/
def Backend.open (view : FileView) (b : Backend) : Work Library := do
  let outcome ← match (← get).outcome? b with
    | some outcome => pure outcome
    | none =>
      Work.debug s!"opening {b.libraryFile.display}"
      modifyGet fun p => p.openBackend view b
  match outcome with
  | .ok library => return library
  | .error reason => throw (.libraryLoad b.libraryFile reason)

namespace Session

/-- A failure for which no unit is at hand. -/
def failure (file : Path) (reason : String) : ClangError := .parseFailed file reason ""

/-- The path and the arguments reach libclang as texts that end at a zero byte, so none may hold one. -/
def refuseNul (file : Path) (args : List String) : Work Unit := do
  if file.bytes.contains 0 then throw (failure file "path contains a NUL byte")
  match args.findSome? nulPosition? with
  | none => return
  | some position =>
    throw <| failure file
      s!"argument contains a NUL byte: nul byte found in provided data at position: {position}"

/-- An index to parse with. -/
def index (library : Library) (file : Path) : Work Nat := do
  Work.debug "creating index..."
  match ← Work.use (library.createIndex 0 0) with
  | some index => return index
  | none => throw (failure file "clang_createIndex returned null")

/-- Copy what a failed request left behind and release it. -/
def discard (library : Library) (index : Nat) : Option (Nat × ForeignUnit) → Usage (List Diagnostic)
  | none => do
    library.disposeIndex index
    return []
  | some (unit, content) => do
    let diagnostics ← library.takeDiagnostics unit content.diagnostics
    library.disposeUnit unit
    library.disposeIndex index
    return diagnostics

/-- Let libclang parse a file: the index that is made for it, and what comes back. -/
def ask (view : FileView) (library : Library) (call : ParseCall) : Work (Nat × Int × Option (Nat × ForeignUnit)) := do
  let index ← index library call.file
  Work.debug "starting parse"
  let (code, unit) ← Work.use (library.parseUnit index call (view.reply call.file))
  Work.debug "finished parse"
  return (index, code, unit)

/-- Parse a file with an open library. A unit that comes with the code for success is handed out, however
many errors it has. -/
def request (view : FileView) (library : Library) (call : ParseCall) : Work ParsedUnit := do
  let (index, code, unit) ← ask view library call
  match code, unit with
  | 0, some (unit, content) =>
    let diagnostics ← Work.use (library.takeDiagnostics unit content.diagnostics)
    unless diagnostics.isEmpty do
      Work.debug s!"{call.file.display}: parse diagnostics:\n{report diagnostics}"
    return { library, index, unit, rootNode := content.root, file := call.file, diagnostics }
  | code, unit =>
    let diagnostics ← Work.use (discard library index unit)
    throw (.parseFailed call.file s!"libclang returned {replyCodeName code}" (report diagnostics))

/-- Parse a file. A file that is not there is refused before the library is opened. -/
def parse (view : FileView) (backend : Backend) (file : Path) (args : List String) (options : ParseOptions) :
    Work ParsedUnit := do
  unless view.isFile file do throw (.fileNotFound file)
  Work.debug s!"parse_file: {file.display}: args={bracketed (args.map quoted)} options={options.debugText}"
  let library ← backend.open view
  refuseNul file args
  request view library
    { file, args, argCount := Int32.ofNat args.length, options := options.bits, unsavedFiles := 0 }

/-- Fill a slot. -/
def configure (view : FileView) (slot : Slot) (dir : Path) : StateM Process (Except ClangError Backend × Slot) :=
  modifyGet fun p =>
    let configured := slot.configure view p.backends dir
    ((configured.result, configured.slot), { p.tell configured.log with backends := p.backends + 1 })

end Session

end ClangAccess
