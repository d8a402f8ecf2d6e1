import ClangAccess.Library.Foreign

namespace ClangAccess

/-- The functions of libclang that are called, in the order in which a library is searched for them. -/
def entryPoints : List String :=
  ["clang_createIndex",
   "clang_disposeIndex",
   "clang_parseTranslationUnit2",
   "clang_disposeTranslationUnit",
   "clang_getNumDiagnostics",
   "clang_getDiagnostic",
   "clang_disposeDiagnostic",
   "clang_getDiagnosticSeverity",
   "clang_getDiagnosticSpelling",
   "clang_getDiagnosticLocation",
   "clang_getDiagnosticNumFixIts",
   "clang_getDiagnosticFixIt",
   "clang_getRangeStart",
   "clang_getRangeEnd",
   "clang_getSpellingLocation",
   "clang_Location_isFromMainFile",
   "clang_getFileName",
   "clang_getCString",
   "clang_disposeString",
   "clang_getTranslationUnitCursor",
   "clang_getCursorKind",
   "clang_getCursorKindSpelling",
   "clang_getCursorSpelling",
   "clang_getCursorLocation",
   "clang_visitChildren"]

/-- A shared library as its file has it. Two names of one file give the same number. -/
structure SharedLibrary where
  file : Nat
  missing : List String
  /-- No index can be had from this library. -/
  givesNoIndex : Bool
  /-- The name that this libclang has for a kind of node. -/
  kindName : Int → ForeignText

/-- The first function that is looked up in vain, if there is one. -/
def SharedLibrary.firstMissing? (l : SharedLibrary) : Option String :=
  entryPoints.find? l.missing.contains

end ClangAccess
