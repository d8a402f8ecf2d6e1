import ClangAccess.Diagnostic

namespace ClangAccess

/-- A text as libclang hands it out: null, or some bytes of which those from the first zero byte on are
not seen. -/
abbrev ForeignText := Option Bytes

/-- The text that a caller takes. A null counts as empty and broken bytes show as replacement characters. -/
def ForeignText.decoded : ForeignText → String
  | none => ""
  | some bytes => Bytes.lossy (bytes.takeWhile (· ≠ 0))

/-- A place in a file. A place in no file is the absence of this. -/
structure ForeignPlace where
  file : ForeignText
  line : UInt32
  column : UInt32
  deriving DecidableEq, Repr

def ForeignPlace.decoded (p : ForeignPlace) : SourceLocation := ⟨p.file.decoded, p.line, p.column⟩

structure ForeignFixIt where
  replacement : ForeignText
  first : Option ForeignPlace
  last : Option ForeignPlace
  deriving DecidableEq, Repr

/-- What is handed out for an edit that is not there. -/
def ForeignFixIt.null : ForeignFixIt := ⟨none, none, none⟩

structure ForeignDiagnostic where
  severity : Int
  message : ForeignText
  place : Option ForeignPlace
  fixits : List ForeignFixIt
  deriving DecidableEq, Repr

/-- What is handed out for a diagnostic that is not there. -/
def ForeignDiagnostic.null : ForeignDiagnostic := ⟨0, none, none, []⟩

/-- A node of a syntax tree. Whether it stands in the main file is libclang's word, whatever its place. -/
inductive ForeignNode where
  | mk (kind : Int) (spelling : ForeignText) (place : Option ForeignPlace) (inMainFile : Bool)
      (children : List ForeignNode)
  deriving Repr

namespace ForeignNode

def kind : ForeignNode → Int
  | mk k _ _ _ _ => k

def spelling : ForeignNode → ForeignText
  | mk _ s _ _ _ => s

def place : ForeignNode → Option ForeignPlace
  | mk _ _ p _ _ => p

def inMainFile : ForeignNode → Bool
  | mk _ _ _ m _ => m

def children : ForeignNode → List ForeignNode
  | mk _ _ _ _ cs => cs

mutual

/-- How many levels a tree has. -/
def height : ForeignNode → Nat
  | mk _ _ _ _ cs => heights cs + 1

/-- How many levels the tallest of some trees has. -/
def heights : List ForeignNode → Nat
  | [] => 0
  | n :: rest => max n.height (heights rest)

end

/-- How a visit goes on after a node: it ends, it passes to the next sibling, or it enters the node first. -/
inductive Step where
  | stop
  | pass
  | enter
  deriving DecidableEq, Repr

/-- Show nodes to a visitor one by one; the visitor says after each how to go on. The flag tells whether
the visit was stopped. -/
def visit (look : σ → ForeignNode → Step × σ) (s : σ) : List ForeignNode → Bool × σ
  | [] => (false, s)
  | mk k t p m below :: rest =>
    match look s (mk k t p m below) with
    | (.stop, s) => (true, s)
    | (.pass, s) => visit look s rest
    | (.enter, s) =>
      match visit look s below with
      | (true, s) => (true, s)
      | (false, s) => visit look s rest
termination_by nodes => sizeOf nodes
decreasing_by all_goals simp only [List.cons.sizeOf_spec, ForeignNode.mk.sizeOf_spec]; omega

end ForeignNode

structure ForeignUnit where
  diagnostics : List ForeignDiagnostic
  root : ForeignNode
  deriving Repr

/-- What comes back from one request to parse a file: a code, zero for success, and a unit or none. The
one says nothing about the other. -/
structure ForeignReply where
  code : Int
  unit : Option ForeignUnit
  deriving Repr

/-- The name of a code that came without a usable unit. -/
def replyCodeName (code : Int) : String :=
  match code with
  | 0 => "CXError_Success without a translation unit"
  | 1 => "CXError_Failure"
  | 2 => "CXError_Crashed"
  | 3 => "CXError_InvalidArguments"
  | 4 => "CXError_ASTReadError"
  | other => s!"unknown error code {other}"

end ClangAccess
