import ClangAccess.Path
import ClangAccess.Text.Json

namespace ClangAccess

/-- Where the directory of libclang was learned. -/
inductive Source where
  | explicit
  | libclangPath
  | llvmLibDir
  | llvmConfig
  | clangDriver
  | windowsClangDriver
  deriving DecidableEq, Repr

def Source.label : Source → String
  | .explicit => "explicit directory"
  | .libclangPath => "LIBCLANG_PATH"
  | .llvmLibDir => "LLVM_LIB_DIR"
  | .llvmConfig => "llvm-config"
  | .clangDriver => "clang++"
  | .windowsClangDriver => "clang++ (windows)"

/-- The source as a key: lowercase words and hyphens. -/
def Source.key : Source → String
  | .explicit => "explicit"
  | .libclangPath => "libclang-path"
  | .llvmLibDir => "llvm-lib-dir"
  | .llvmConfig => "llvm-config"
  | .clangDriver => "clang-driver"
  | .windowsClangDriver => "windows-clang-driver"

/-- The file name of libclang's shared library. -/
def libraryName : Path := .ofText "libclang.so"

/-- What one source knows of an installation. -/
structure Discovery where
  libraryDir : Path
  executable : Option Path
  version : Option String
  deriving DecidableEq, Repr

/-- A directory that was named and not derived from a tool. -/
def Discovery.directory (dir : Path) : Discovery := ⟨dir, none, none⟩

/-- A compiler installation that a search found. Whether the library file is there is for the loader to see. -/
structure Toolchain where
  source : Source
  executable : Option Path
  version : Option String
  libraryDir : Path
  libraryFile : Path
  deriving DecidableEq, Repr

namespace Toolchain

def ofDiscovery (source : Source) (found : Discovery) : Toolchain where
  source := source
  executable := found.executable
  version := found.version
  libraryDir := found.libraryDir
  libraryFile := found.libraryDir.join libraryName

/-- Paths can be written as JSON only if they are text. -/
inductive JsonError where
  | pathNotText
  deriving DecidableEq, Repr

def JsonError.message : JsonError → String
  | .pathNotText => "path contains invalid UTF-8 characters"

def jsonPath (p : Path) : Except JsonError String :=
  match p.text? with
  | some text => .ok (jsonString text)
  | none => .error .pathNotText

def jsonPath? : Option Path → Except JsonError String
  | none => .ok "null"
  | some p => jsonPath p

/-- The toolchain as a JSON object. -/
def json (t : Toolchain) : Except JsonError String := do
  let executable ← jsonPath? t.executable
  let libraryDir ← jsonPath t.libraryDir
  let libraryFile ← jsonPath t.libraryFile
  return jsonObject
    [("source", jsonString t.source.key), ("executable", executable), ("version", jsonOption jsonString t.version),
     ("library_dir", libraryDir), ("library_file", libraryFile)]

/-- The toolchain for a reader, one fact a line. -/
def summary (t : Toolchain) : String :=
  String.join
    (["source:       " ++ t.source.label ++ "\n"] ++
     (t.executable.map fun p => "executable:   " ++ p.display ++ "\n").toList ++
     (t.version.map fun v => "version:      " ++ v ++ "\n").toList ++
     ["library dir:  " ++ t.libraryDir.display ++ "\n", "library file: " ++ t.libraryFile.display ++ "\n"])

end Toolchain

end ClangAccess
