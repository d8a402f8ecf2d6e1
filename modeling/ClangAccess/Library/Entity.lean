import ClangAccess.Library.Usage

namespace ClangAccess

/-- A node of the syntax tree of a unit that is alive. -/
structure Entity where
  library : Library
  unit : Nat
  node : ForeignNode

namespace Entity

def kind (e : Entity) : Usage Int := do
  e.library.touch e.unit
  return e.node.kind

def kindName (e : Entity) : Usage String := do
  let kind ← e.kind
  e.library.takeText (e.library.kindName kind)

def spelling (e : Entity) : Usage String := do
  e.library.touch e.unit
  e.library.takeText e.node.spelling

def location (e : Entity) : Usage (Option SourceLocation) := do
  e.library.touch e.unit
  e.library.takePlace e.node.place

def isInMainFile (e : Entity) : Usage Bool := do
  e.library.touch e.unit
  return e.node.inMainFile

/-- The nodes directly below, in the order in which they are visited. -/
def children (e : Entity) : Usage (List Entity) := do
  e.library.touch e.unit
  let (_, nodes) := ForeignNode.visit (fun seen n => (.pass, seen.push n)) #[] e.node.children
  return nodes.toList.map fun n => { e with node := n }

end Entity

/-- What a node says of itself, and the same for the nodes below it. -/
inductive Outline where
  | mk (kind : Int) (kindName spelling : String) (location : Option SourceLocation) (inMainFile : Bool)
      (children : List Outline)
  deriving Repr

namespace Outline

/-- The node alone as a record. -/
def debugText : Outline → String
  | mk _ kindName spelling location _ _ =>
    recordText "Entity"
      [("kind", quoted kindName), ("spelling", quoted spelling),
       ("location", optionText SourceLocation.debugText location)]

end Outline

/-- The outline of a node down to some depth. -/
def Entity.outline : (depth : Nat) → Entity → Usage Outline
  | depth, e => do
    let kind ← e.kind
    let kindName ← e.kindName
    let spelling ← e.spelling
    let location ← e.location
    let inMainFile ← e.isInMainFile
    let children ← match depth with
      | 0 => pure []
      | below + 1 => do (← e.children).mapM (outline below)
    return .mk kind kindName spelling location inMainFile children

end ClangAccess
