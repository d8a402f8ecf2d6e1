import ClangAccess.Text.Quoted

namespace ClangAccess

/-- A file name or a route to a file: components between slashes. -/
structure Path where
  bytes : Bytes
  deriving DecidableEq, Repr

namespace Path

def slash : UInt8 := 0x2F
def dot : UInt8 := 0x2E

def ofText (s : String) : Path := ⟨Bytes.ofText s⟩

def isEmpty (p : Path) : Bool := p.bytes.isEmpty

def isAbsolute (p : Path) : Bool := p.bytes.head? = some slash

/-- The path for a reader's eye: bytes that are not text show as replacement characters. -/
def display (p : Path) : String := p.bytes.lossy

def text? (p : Path) : Option String := p.bytes.text?

def quoted (p : Path) : String := quotedBytes p.bytes

/-- `q` as seen from the directory `p`; an absolute `q` is where it is. -/
def join (p q : Path) : Path :=
  if q.isAbsolute then q
  else if p.isEmpty || p.bytes.getLast? = some slash then ⟨p.bytes ++ q.bytes⟩
  else ⟨p.bytes ++ slash :: q.bytes⟩

/-- What fixes the start of a path, the root slash or a dot that stands for the working directory, and the
rest. -/
def splitAnchor : Bytes → Bytes × Bytes
  | b :: rest =>
    if b = slash then ([slash], rest)
    else if b = dot then
      if rest.isEmpty || rest.head? = some slash then ([dot], rest) else ([], b :: rest)
    else ([], b :: rest)
  | [] => ([], [])

/-- A reversed path without the slashes and single dots that end it, which name no component. -/
def dropInert : Bytes → Bytes
  | [] => []
  | b :: rest =>
    if b = slash then dropInert rest
    else if b = dot then
      match rest with
      | [] => []
      | c :: more => if c = slash then dropInert more else b :: c :: more
    else b :: rest

/-- The path without its last component. The root and the empty path have none to lose. -/
def parent? (p : Path) : Option Path :=
  let (anchor, body) := splitAnchor p.bytes
  match dropInert body.reverse with
  | [] => if anchor = [dot] then some ⟨[]⟩ else none
  | last => some ⟨anchor ++ (dropInert (last.dropWhile (· ≠ slash))).reverse⟩

/-- The parent, if it names a directory at all. -/
def directory? (p : Path) : Option Path :=
  p.parent?.filter fun d => !d.isEmpty

/-- The stretches between slashes, empty ones included. -/
def segments : Bytes → List Bytes
  | [] => [[]]
  | b :: rest =>
    match segments rest with
    | [] => [[b]]
    | s :: more => if b = slash then [] :: s :: more else (b :: s) :: more

def here : Bytes := [dot]

/-- The names of a path that say something. -/
def names (p : Path) : List Bytes :=
  (segments p.bytes).filter fun name => name ≠ [] && name ≠ here

/-- What a path is made of: where it starts and the names from there on. -/
def components (p : Path) : Bytes × List Bytes :=
  let (anchor, body) := splitAnchor p.bytes
  (anchor, names ⟨body⟩)

/-- Paths with the same components are the same, however they are spelled. -/
def Same (p q : Path) : Prop := p.components = q.components

instance (p q : Path) : Decidable (Same p q) := inferInstanceAs (Decidable (p.components = q.components))

end Path

end ClangAccess
