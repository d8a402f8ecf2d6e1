import ClangAccess.Error
import ClangAccess.Log

namespace ClangAccess

/-- A question to the host: a variable of its environment, a program on its search path, or the output of
a program. -/
inductive Query where
  | env (name : String)
  | find (name : String)
  | run (program : Path) (args : List String)
  deriving DecidableEq, Repr

@[reducible] def Query.Answer : Query → Type
  | .env _ => Option Bytes
  | .find _ => Option Path
  | .run _ _ => Except ProbeError String

/-- A program with its arguments as one line, with a space after the program even if none follow. -/
def commandLine (program : Path) (args : List String) : String :=
  program.display ++ " " ++ " ".intercalate args

/-- A search that questions a host. What it asks next may depend on every answer so far and on nothing
else, and what it notes goes to the log. -/
inductive Inquiry (α : Type) where
  | done (result : α)
  | note (record : Record) (rest : Inquiry α)
  | ask (query : Query) (next : query.Answer → Inquiry α)

namespace Inquiry

def bind (first : Inquiry α) (next : α → Inquiry β) : Inquiry β :=
  match first with
  | .done result => next result
  | .note record rest => .note record (rest.bind next)
  | .ask query answered => .ask query fun answer => (answered answer).bind next

def debug (text : String) (rest : Inquiry α) : Inquiry α := .note (.debug text) rest

def warn (text : String) (rest : Inquiry α) : Inquiry α := .note (.warn text) rest

def env (name : String) (next : Option Bytes → Inquiry α) : Inquiry α := .ask (.env name) next

def find (name : String) (next : Option Path → Inquiry α) : Inquiry α := .ask (.find name) next

/-- Run a program; the inquiry ends with the failure if the program fails. -/
def run (program : Path) (args : List String) (next : String → Inquiry (Except ProbeError α)) :
    Inquiry (Except ProbeError α) :=
  .ask (.run program args) fun
    | .ok output => next output
    | .error e => .done (.error e)

end Inquiry

/-- What a search can know of the host without asking: its system, and which file a path leads to. -/
structure Platform where
  windows : Bool
  canonical? : Path → Option Path

/-- A host answers every question, and may note something of its own as it does. -/
structure Host extends Platform where
  answer : (query : Query) → query.Answer
  remarks : Query → List Record := fun _ => []

/-- What came of an inquiry: its result, the questions in order and the log. -/
structure Account (α : Type) where
  result : α
  calls : List Query
  log : List Record

def Inquiry.conduct (host : Host) : Inquiry α → Account α
  | .done result => ⟨result, [], []⟩
  | .note record rest =>
    let later := rest.conduct host
    { later with log := record :: later.log }
  | .ask query next =>
    let later := (next (host.answer query)).conduct host
    { later with calls := query :: later.calls, log := host.remarks query ++ later.log }

end ClangAccess
