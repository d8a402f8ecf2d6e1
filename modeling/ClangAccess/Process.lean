import ClangAccess.Backend

namespace ClangAccess

/-- A library in memory and the names under which it has been opened. -/
structure Loaded where
  names : List Path
  file : Nat
  library : Library

/-- What came of opening the library of a backend. -/
structure Opening where
  backend : Nat
  outcome : Except String Library

/-- A running program that uses libclang: how many backends it has decided on, what came of opening them,
the libraries in memory, what was done with them, and the log. -/
structure Process where
  backends : Nat := 0
  openings : List Opening := []
  libraries : List Loaded := []
  ledger : Ledger := #[]
  log : Array Record := #[]

namespace Process

def tell (p : Process) (records : List Record) : Process :=
  { p with log := p.log ++ records }

/-- What came of opening a backend's library, if that has been tried. -/
def outcome? (p : Process) (b : Backend) : Option (Except String Library) :=
  (p.openings.find? fun o => o.backend = b.number).map Opening.outcome

/-- Whether a backend's library is open. -/
def isLoaded (p : Process) (b : Backend) : Bool :=
  match p.outcome? b with
  | some (.ok _) => true
  | _ => false

/-- A backend as a record. -/
def backendText (p : Process) (b : Backend) : String :=
  recordText "Backend" [("library_file", b.libraryFile.quoted), ("loaded", toString (p.isLoaded b))]

/-- The library in memory that goes by a name. -/
def named? (p : Process) (path : Path) : Option Loaded :=
  p.libraries.find? fun l => l.names.contains path

/-- Let a file that is in memory already go by one more name. -/
def addName (file : Nat) (path : Path) (l : Loaded) : Loaded :=
  if l.file = file then { l with names := l.names ++ [path] } else l

/-- Bring the file behind a path into memory. A file that is there already is not brought in twice, and a
library that lacks a function does not stay. -/
def bringIn (p : Process) (view : FileView) (path : Path) (found : SharedLibrary) :
    Except String Library × Process :=
  match p.libraries.find? fun l => l.file = found.file with
  | some l => (.ok l.library, { p with libraries := p.libraries.map (addName found.file path) })
  | none =>
    match found.firstMissing? with
    | some name => (.error s!"missing symbol {name}: {view.missingText path name}", p)
    | none =>
      let library : Library := ⟨found.file, found.givesNoIndex, found.kindName⟩
      (.ok library, { p with libraries := p.libraries ++ [⟨[path], found.file, library⟩] })

/-- Open the library at a path. What is in memory under that name is not looked for among the files. -/
def openLibrary (p : Process) (view : FileView) (path : Path) : Except String Library × Process :=
  match p.named? path with
  | some l => (.ok l.library, p)
  | none =>
    match view.library path with
    | .ok found => p.bringIn view path found
    | .error reason => (.error reason, p)

/-- Open the library of a backend and remember what comes of it. -/
def openBackend (p : Process) (view : FileView) (b : Backend) : Except String Library × Process :=
  let (outcome, p) := p.openLibrary view b.libraryFile
  (outcome, { p with openings := p.openings ++ [⟨b.number, outcome⟩] })

/-- Use libclang and enter it in the ledger of the process. -/
def use (p : Process) (work : Usage α) : α × Process :=
  let ledger := p.ledger
  let idle := { p with ledger := #[] }
  let (result, ledger) := work.run ledger
  (result, { idle with ledger })

end Process

/-- A step of a process that may fail. -/
abbrev Work := ExceptT ClangError (StateM Process)

namespace Work

def debug (text : String) : Work Unit :=
  modify fun p => p.tell [.debug text]

def use (work : Usage α) : Work α := modifyGet fun p => p.use work

end Work

end ClangAccess
