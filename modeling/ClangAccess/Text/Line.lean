namespace ClangAccess

/-- The characters before the first newline, and whether there was one. -/
def upToNewline (cs : List Char) : List Char × Bool :=
  (cs.takeWhile (· ≠ '\n'), cs.contains '\n')

/-- A line without the carriage return that ends it, if one does. -/
def dropCarriageReturn (cs : List Char) : List Char :=
  if cs.getLast? = some '\r' then cs.dropLast else cs

/-- The first line of a text that has one. A line ends at a newline or at a carriage return and newline;
a carriage return elsewhere is part of the line. -/
def firstLine? (s : String) : Option String :=
  if s.isEmpty then none
  else
    match upToNewline s.toList with
    | (line, true) => some (String.ofList (dropCarriageReturn line))
    | (line, false) => some (String.ofList line)

end ClangAccess
