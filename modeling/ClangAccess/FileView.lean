import ClangAccess.Library.EntryPoint
import ClangAccess.Library.Foreign
import ClangAccess.Path

namespace ClangAccess

/-- The files as they are at one moment, as far as a user of libclang gets to see them. A path with a zero
byte in it leads nowhere. -/
structure FileView where
  /-- Whether a path leads to a regular file. -/
  isFile : Path → Bool
  /-- The one absolute path without links that leads to the same place, if there is such a place. -/
  canonical? : Path → Option Path
  /-- The shared library at a path, or why it cannot be opened. -/
  library : Path → Except String SharedLibrary
  /-- What the loader says when the library at a path lacks a function. -/
  missingText : Path → String → String
  /-- What libclang makes of the file at a path. -/
  reply : Path → ForeignReply
  nulFree : ∀ path, isFile path = true → path.bytes.contains 0 = false

end ClangAccess
