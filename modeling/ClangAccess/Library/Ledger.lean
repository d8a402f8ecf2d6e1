import ClangAccess.Path

namespace ClangAccess

/-- What libclang lends for a moment and wants back. -/
inductive Loan where
  | text
  | diagnostic
  deriving DecidableEq, Repr

/-- The arguments of one request to parse a file. How many strings `args` has is told beside it, as a
number of 32 bits with a sign. -/
structure ParseCall where
  file : Path
  args : List String
  argCount : Int32
  options : UInt32
  unsavedFiles : Nat
  deriving DecidableEq, Repr

/-- Something that a caller does with libclang. Indices, units and loans go by number. -/
inductive Event where
  | indexCreated (excludeDeclarations displayDiagnostics : Nat) (index : Option Nat)
  | parsed (index : Nat) (call : ParseCall) (unit : Option Nat)
  | unitUsed (unit : Nat)
  | lent (loan : Loan) (number : Nat)
  | returned (loan : Loan) (number : Nat)
  | unitDisposed (unit : Nat)
  | indexDisposed (index : Nat)
  deriving DecidableEq, Repr

/-- An event and the library in which it happened. -/
structure Entry where
  library : Nat
  event : Event
  deriving DecidableEq, Repr

/-- All that has been done with libclang so far, in order. -/
abbrev Ledger := Array Entry

/-- What is out on loan. -/
structure Outstanding where
  texts : Nat
  diagnostics : Nat
  deriving DecidableEq, Repr

namespace Outstanding

def none : Outstanding := ⟨0, 0⟩

def after (o : Outstanding) : Event → Outstanding
  | .lent .text _ => { o with texts := o.texts + 1 }
  | .lent .diagnostic _ => { o with diagnostics := o.diagnostics + 1 }
  | .returned .text _ => { o with texts := o.texts - 1 }
  | .returned .diagnostic _ => { o with diagnostics := o.diagnostics - 1 }
  | _ => o

end Outstanding

/-- What a library tells of its use: the calls that acquire or release something for long, the releases
with what is out on loan at that moment. -/
inductive Told where
  | createIndex (excludeDeclarations displayDiagnostics : Nat)
  | parse (call : ParseCall)
  | disposeUnit (outstanding : Outstanding)
  | disposeIndex (outstanding : Outstanding)
  deriving DecidableEq, Repr

def Event.told? (outstanding : Outstanding) : Event → Option Told
  | .indexCreated exclude display _ => some (.createIndex exclude display)
  | .parsed _ call _ => some (.parse call)
  | .unitDisposed _ => some (.disposeUnit outstanding)
  | .indexDisposed _ => some (.disposeIndex outstanding)
  | .unitUsed _ | .lent .. | .returned .. => none

/-- What is told of some events that follow each other. -/
def Event.story (outstanding : Outstanding) : List Event → List Told
  | [] => []
  | e :: rest => (e.told? outstanding).toList ++ story (outstanding.after e) rest

namespace Ledger

/-- The events of one library. -/
def events (ledger : Ledger) (library : Nat) : List Event :=
  (ledger.toList.filter fun e => e.library = library).map Entry.event

/-- What one library tells of its use. -/
def story (ledger : Ledger) (library : Nat) : List Told :=
  Event.story .none (ledger.events library)

end Ledger

end ClangAccess
