namespace ClangAccess

/-- How much of a file's syntax tree libclang keeps, as one word of flags. Bits without a name are kept
and handed on. -/
structure ParseOptions where
  bits : UInt32
  deriving DecidableEq, Repr

namespace ParseOptions

/-- Keep macro expansions and inclusions. -/
def detailedPreprocessingRecord : ParseOptions := ⟨0x01⟩

/-- Tolerate includes that cannot be resolved. -/
def incomplete : ParseOptions := ⟨0x02⟩

/-- Read declarations only. -/
def skipFunctionBodies : ParseOptions := ⟨0x40⟩

/-- The flags that have a name, in the order in which they are listed. -/
def named : List (String × ParseOptions) :=
  [("DETAILED_PREPROCESSING_RECORD", detailedPreprocessingRecord),
   ("INCOMPLETE", incomplete),
   ("SKIP_FUNCTION_BODIES", skipFunctionBodies)]

def empty : ParseOptions := ⟨0⟩

/-- Every named flag. -/
def all : ParseOptions := ⟨0x43⟩

def insert (o p : ParseOptions) : ParseOptions := ⟨o.bits ||| p.bits⟩

def remove (o p : ParseOptions) : ParseOptions := ⟨o.bits &&& ~~~p.bits⟩

def toggle (o p : ParseOptions) : ParseOptions := ⟨o.bits ^^^ p.bits⟩

def intersect (o p : ParseOptions) : ParseOptions := ⟨o.bits &&& p.bits⟩

/-- The flags of `p` switched on or off. -/
def set (o p : ParseOptions) (on : Bool) : ParseOptions :=
  if on then o.insert p else o.remove p

/-- The named flags of a word. -/
def truncate (o : ParseOptions) : ParseOptions := o.intersect all

/-- The named flags that a word lacks. -/
def complement (o : ParseOptions) : ParseOptions := truncate ⟨~~~o.bits⟩

def contains (o p : ParseOptions) : Bool := o.bits &&& p.bits == p.bits

def intersects (o p : ParseOptions) : Bool := o.bits &&& p.bits != 0

def isEmpty (o : ParseOptions) : Bool := o.bits == 0

def isAll (o : ParseOptions) : Bool := o.contains all

/-- A word taken only if each of its bits has a name. -/
def strict? (bits : UInt32) : Option ParseOptions :=
  if bits &&& ~~~all.bits == 0 then some ⟨bits⟩ else none

def named? (name : String) : Option ParseOptions :=
  named.lookup name

/-- Declarations and preprocessing records, without function bodies. -/
def default : ParseOptions := detailedPreprocessingRecord.insert skipFunctionBodies

/-- The bits that have no name. -/
def unnamed (o : ParseOptions) : UInt32 := o.bits &&& ~~~all.bits

/-- Flags by name in the listed order, then what has no name in hexadecimal. -/
def parts (o : ParseOptions) : List String :=
  (named.filter fun (_, flag) => o.contains flag).map Prod.fst ++
    if o.unnamed == 0 then [] else [hex o.unnamed]
where
  hex (word : UInt32) : String := "0x" ++ String.ofList (Nat.toDigits 16 word.toNat)

def debugText (o : ParseOptions) : String :=
  "ParseOptions(" ++ (if o.isEmpty then "0x0" else " | ".intercalate o.parts) ++ ")"

end ParseOptions

end ClangAccess
