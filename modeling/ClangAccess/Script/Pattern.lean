import ClangAccess.Script.Word

namespace ClangAccess.Script

/-- One element of a pattern. -/
inductive Mark where
  | any
  | one
  | char (c : Char)
  /-- Some character in, or outside, of some ranges. -/
  | among (negated : Bool) (ranges : List (Char × Char))
  deriving DecidableEq, Repr

namespace Mark

/-- The ranges up to the closing bracket, and what follows it. A bracket at the front is a member. -/
def readRanges : (first : Bool) → Chars → Option (List (Char × Char) × Chars)
  | _, [] => none
  | first, c :: rest =>
    if c = ']' && !first then some ([], rest)
    else
      match rest with
      | '-' :: d :: rest =>
        if d = ']' then (readRanges false ('-' :: d :: rest)).map fun (rs, rest) => ((c, c) :: rs, rest)
        else (readRanges false rest).map fun (rs, rest) => ((c, d) :: rs, rest)
      | rest => (readRanges false rest).map fun (rs, rest) => ((c, c) :: rs, rest)
termination_by _ cs => cs.length

/-- The set that an opening bracket begins. -/
def readSet (cs : Chars) : Option (Mark × Chars) :=
  match cs with
  | '!' :: rest => (readRanges true rest).map fun (rs, rest) => (.among true rs, rest)
  | rest => (readRanges true rest).map fun (rs, rest) => (.among false rs, rest)

/-- The marks of unquoted text. -/
def ofChars : (steps : Nat) → Chars → List Mark
  | 0, _ | _, [] => []
  | steps + 1, '*' :: rest => .any :: ofChars steps rest
  | steps + 1, '?' :: rest => .one :: ofChars steps rest
  | steps + 1, '[' :: rest =>
    match readSet rest with
    | some (m, rest) => m :: ofChars steps rest
    | none => .char '[' :: ofChars steps rest
  | steps + 1, c :: rest => .char c :: ofChars steps rest

def admits (m : Mark) (c : Char) : Bool :=
  match m with
  | any | one => true
  | char d => c = d
  | among negated ranges => (ranges.any fun (low, high) => low ≤ c && c ≤ high) != negated

/-- Whether some marks fit the whole of a text. -/
def fits : List Mark → Chars → Bool
  | [], cs => cs.isEmpty
  | .any :: rest, [] => fits rest []
  | .any :: rest, c :: cs => fits rest (c :: cs) || fits (.any :: rest) cs
  | _ :: _, [] => false
  | m :: rest, c :: cs => m.admits c && fits rest cs
termination_by marks cs => (cs.length, marks.length)

end Mark

end ClangAccess.Script
