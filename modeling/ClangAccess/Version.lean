import ClangAccess.Text.Blank
import ClangAccess.Text.Digit
import ClangAccess.Text.Line

namespace ClangAccess

namespace Version

/-- Digits, a dot and digits at the start of a text, both runs as long as they can be. -/
def leading? (cs : List Char) : Option (List Char) :=
  let major := cs.takeWhile isDecimalDigit
  match cs.dropWhile isDecimalDigit with
  | '.' :: rest =>
    let minor := rest.takeWhile isDecimalDigit
    if major.isEmpty || minor.isEmpty then none else some (major ++ '.' :: minor)
  | _ => none

/-- The word that announces a version number. -/
def marker : List Char := "version ".toList

/-- The number directly after a marker that opens the text. -/
def afterMarker? (cs : List Char) : Option (List Char) :=
  if marker.isPrefixOf cs then leading? (cs.drop marker.length) else none

/-- The number after the first `marker` that has one. -/
def announced? : List Char → Option (List Char)
  | [] => none
  | c :: cs =>
    match afterMarker? (c :: cs) with
    | some v => some v
    | none => announced? cs

end Version

/-- The version that opens the first line of a tool's output, after blanks. -/
def plainVersion? (output : String) : Option String :=
  (firstLine? output).bind fun line =>
    (Version.leading? (line.toList.dropWhile isBlank)).map String.ofList

/-- The version that the first line of a compiler driver's output announces. -/
def driverVersion? (output : String) : Option String :=
  (firstLine? output).bind fun line => (Version.announced? line.toList).map String.ofList

end ClangAccess
