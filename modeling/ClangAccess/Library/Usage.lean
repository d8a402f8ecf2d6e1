import ClangAccess.Library.Foreign
import ClangAccess.Library.Ledger

namespace ClangAccess

/-- A libclang that is open and has all its functions. -/
structure Library where
  number : Nat
  givesNoIndex : Bool
  kindName : Int → ForeignText

/-- Work with libclang, entered in a ledger. -/
abbrev Usage := StateM Ledger

namespace Library

def enter (l : Library) (event : Event) : Usage Unit :=
  modify fun ledger => ledger.push ⟨l.number, event⟩

/-- A number that no earlier handle has. -/
def freshNumber : Usage Nat :=
  return (← get).size

def lend (l : Library) (loan : Loan) : Usage Nat := do
  let number ← freshNumber
  l.enter (.lent loan number)
  return number

def takeBack (l : Library) (loan : Loan) (number : Nat) : Usage Unit :=
  l.enter (.returned loan number)

/-- An index, unless the library gives none. -/
def createIndex (l : Library) (excludeDeclarations displayDiagnostics : Nat) : Usage (Option Nat) := do
  let number ← freshNumber
  let index := if l.givesNoIndex then none else some number
  l.enter (.indexCreated excludeDeclarations displayDiagnostics index)
  return index

/-- Parse a file; `reply` is what libclang makes of it. A unit that comes back gets a number. -/
def parseUnit (l : Library) (index : Nat) (call : ParseCall) (reply : ForeignReply) :
    Usage (Int × Option (Nat × ForeignUnit)) := do
  let number ← freshNumber
  let unit := reply.unit.map fun u => (number, u)
  l.enter (.parsed index call (unit.map Prod.fst))
  return (reply.code, unit)

def disposeUnit (l : Library) (unit : Nat) : Usage Unit :=
  l.enter (.unitDisposed unit)

def disposeIndex (l : Library) (index : Nat) : Usage Unit :=
  l.enter (.indexDisposed index)

def touch (l : Library) (unit : Nat) : Usage Unit :=
  l.enter (.unitUsed unit)

/-- Copy a text and give it back. -/
def takeText (l : Library) (text : ForeignText) : Usage String := do
  let number ← l.lend .text
  l.takeBack .text number
  return text.decoded

/-- Copy a place. Only a place in a file has a file name to take. -/
def takePlace (l : Library) : Option ForeignPlace → Usage (Option SourceLocation)
  | none => return none
  | some p => do
    let file ← l.takeText p.file
    return some ⟨file, p.line, p.column⟩

/-- Two ends make a range if both are there. -/
def rangeOf? : Option SourceLocation → Option SourceLocation → Option (SourceLocation × SourceLocation)
  | some first, some last => some (first, last)
  | _, _ => none

/-- Copy a suggested edit. It has a range only if both of its ends lie in a file. -/
def takeFixIt (l : Library) (f : ForeignFixIt) : Usage FixIt := do
  let replacement ← l.takeText f.replacement
  let first ← l.takePlace f.first
  let last ← l.takePlace f.last
  return ⟨rangeOf? first last, replacement⟩

/-- The severity behind a number; those without a meaning of their own count as notes. -/
def severity : Int → Severity
  | 2 => .warning
  | 3 => .error
  | 4 => .fatal
  | _ => .note

/-- Copy a diagnostic; its edits are asked for one by one, as many as it is said to have. -/
def takeDiagnostic (l : Library) (d : ForeignDiagnostic) : Usage Diagnostic := do
  let message ← l.takeText d.message
  let location ← l.takePlace d.place
  let fixits ← (List.range d.fixits.length).mapM fun i => l.takeFixIt (d.fixits.getD i .null)
  return ⟨severity d.severity, message, location, fixits⟩

/-- How many diagnostics a unit has. -/
def diagnosticCount (l : Library) (unit : Nat) (diagnostics : List ForeignDiagnostic) : Usage Nat := do
  l.touch unit
  return diagnostics.length

/-- Borrow the diagnostic at some index. -/
def lendDiagnostic (l : Library) (unit : Nat) (diagnostics : List ForeignDiagnostic) (i : Nat) :
    Usage (Nat × ForeignDiagnostic) := do
  l.touch unit
  let number ← l.lend .diagnostic
  return (number, diagnostics.getD i .null)

/-- Borrow the diagnostics of a unit one by one, as many as it is said to have, copy each and give it back. -/
def takeDiagnostics (l : Library) (unit : Nat) (diagnostics : List ForeignDiagnostic) :
    Usage (List Diagnostic) := do
  let count ← l.diagnosticCount unit diagnostics
  (List.range count).mapM fun i => do
    let (number, d) ← l.lendDiagnostic unit diagnostics i
    let copy ← l.takeDiagnostic d
    l.takeBack .diagnostic number
    return copy

end Library

end ClangAccess
