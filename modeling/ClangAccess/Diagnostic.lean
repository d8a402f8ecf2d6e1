import ClangAccess.Text.Quoted

namespace ClangAccess

inductive Severity where
  | note
  | warning
  | error
  | fatal
  deriving DecidableEq, Repr

namespace Severity

def isError : Severity → Bool
  | .error | .fatal => true
  | .note | .warning => false

def label : Severity → String
  | .note => "note"
  | .warning => "warning"
  | .error => "error"
  | .fatal => "fatal"

/-- The name of the severity as a constructor. -/
def debugText : Severity → String
  | .note => "Note"
  | .warning => "Warning"
  | .error => "Error"
  | .fatal => "Fatal"

/-- How grave a diagnostic is, from a note up. -/
def rank : Severity → Nat
  | .note => 0
  | .warning => 1
  | .error => 2
  | .fatal => 3

end Severity

structure SourceLocation where
  file : String
  line : UInt32
  column : UInt32
  deriving DecidableEq, Repr

namespace SourceLocation

/-- The tag that opens every line of a report. -/
def fileLine (l : SourceLocation) : String := s!"{l.file}:{l.line}"

def debugText (l : SourceLocation) : String :=
  recordText "SourceLocation" [("file", quoted l.file), ("line", toString l.line), ("column", toString l.column)]

end SourceLocation

/-- A suggested edit: put `replacement` in place of `range`. -/
structure FixIt where
  range : Option (SourceLocation × SourceLocation)
  replacement : String
  deriving DecidableEq, Repr

namespace FixIt

def verb (f : FixIt) : String :=
  if f.replacement.isEmpty then "remove" else "replace"

def rangeText : Option (SourceLocation × SourceLocation) → String
  | none => ""
  | some (first, last) => s!" {first.line}:{first.column}-{last.line}:{last.column}"

/-- The edit in words. The files of the range are left out: a report names the file at the line's start. -/
def display (f : FixIt) : String :=
  f.verb ++ rangeText f.range ++
    if f.replacement.isEmpty then "" else " with \"" ++ f.replacement ++ "\""

def debugText (f : FixIt) : String :=
  recordText "FixIt"
    [("range", optionText (fun (first, last) => "(" ++ first.debugText ++ ", " ++ last.debugText ++ ")") f.range),
     ("replacement", quoted f.replacement)]

end FixIt

structure Diagnostic where
  severity : Severity
  message : String
  location : Option SourceLocation
  fixits : List FixIt
  deriving DecidableEq, Repr

namespace Diagnostic

/-- The tag of the diagnostic's lines, empty if it has no place in a file. -/
def fileLine (d : Diagnostic) : String :=
  (d.location.map SourceLocation.fileLine).getD ""

/-- The lines of a report that one diagnostic accounts for, each with its newline. -/
def entry (d : Diagnostic) : String :=
  d.fileLine ++ ": " ++ d.severity.label ++ ": " ++ d.message ++ "\n" ++
    String.join (d.fixits.map fun f => d.fileLine ++ ":     " ++ f.display ++ "\n")

def debugText (d : Diagnostic) : String :=
  recordText "Diagnostic"
    [("severity", d.severity.debugText), ("message", quoted d.message),
     ("location", optionText SourceLocation.debugText d.location),
     ("fixits", bracketed (d.fixits.map FixIt.debugText))]

end Diagnostic

/-- A report on some diagnostics in their order, closed by a blank line unless there are none. -/
def report (diagnostics : List Diagnostic) : String :=
  String.join (diagnostics.map Diagnostic.entry) ++ if diagnostics.isEmpty then "" else "\n"

/-- Whether some diagnostic is an error or worse. -/
def anyError (diagnostics : List Diagnostic) : Bool :=
  diagnostics.any fun d => d.severity.isError

end ClangAccess
