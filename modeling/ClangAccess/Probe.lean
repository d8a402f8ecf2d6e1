import ClangAccess.Inquiry
import ClangAccess.Toolchain
import ClangAccess.Version

namespace ClangAccess

/-- One way to learn the directory of libclang. -/
inductive Probe where
  | explicit (dir : Path)
  | libclangPath
  | llvmLibDir
  | llvmConfig
  | clangDriver
  | windowsClangDriver
  deriving DecidableEq, Repr

/-- A probe finds something, finds that its source is absent, or fails on a source that is there. -/
abbrev ProbeOutcome := Except ProbeError (Option Discovery)

namespace Probe

def source : Probe → Source
  | .explicit _ => .explicit
  | .libclangPath => .libclangPath
  | .llvmLibDir => .llvmLibDir
  | .llvmConfig => .llvmConfig
  | .clangDriver => .clangDriver
  | .windowsClangDriver => .windowsClangDriver

/-- What to say of a probe whose source is absent. -/
def unavailable : Probe → String
  | .explicit _ => "no directory given"
  | .libclangPath => "LIBCLANG_PATH is not set"
  | .llvmLibDir => "LLVM_LIB_DIR is not set"
  | .llvmConfig => "'llvm-config' not found in PATH"
  | .clangDriver => "'clang++' not found in PATH (or running on Windows)"
  | .windowsClangDriver => "'clang++' not found in PATH (or not running on Windows)"

/-- The probes of a search for which no directory is given, by priority. -/
def defaults : List Probe :=
  [.libclangPath, .llvmLibDir, .llvmConfig, .clangDriver, .windowsClangDriver]

/-- Whether the value of a variable counts as unset: it is empty, or text with nothing but blanks. -/
def isBlankValue (value : Bytes) : Bool :=
  match value.text? with
  | some text => isBlankText text
  | none => value.isEmpty

/-- The value of a variable, if there is one that is not blank. -/
def filledVar (name : String) (next : Option Bytes → Inquiry α) : Inquiry α :=
  .env name fun value => next (value.filter fun v => !isBlankValue v)

/-- `<prefix>` for a driver at `<prefix>/bin/clang++`, once links are followed. -/
def installPrefix? (canonical? : Path → Option Path) (exe : Path) : Option Path :=
  let resolved := (canonical? exe).getD exe
  resolved.directory?.map fun bin => bin.parent?.getD bin

/-- The flag that makes `llvm-config` name libclang's directory: on Windows the library lies beside the
executables. -/
def directoryFlag (windows : Bool) : String :=
  if windows then "--bindir" else "--libdir"

/-- The directory in the output of `llvm-config`. -/
def reportedDirectory (output : String) : String :=
  trimBlanks ((firstLine? output).getD "")

/-- A tool that cannot report its version is not asked for a directory. -/
def inquireLlvmConfig (platform : Platform) : Inquiry ProbeOutcome :=
  .find "llvm-config" fun
  | none => .done (.ok none)
  | some exe =>
    .debug s!"'llvm-config' found: {exe.display}" <|
    .run exe ["--version"] fun output =>
      match plainVersion? output with
      | none => .done (.error (.unparseableVersion exe output))
      | some version =>
        let flag := directoryFlag platform.windows
        .debug s!"'llvm-config' version: {version}" <|
        .run exe [flag] fun output =>
          let dir := reportedDirectory output
          if dir.isEmpty then
            .done (.error (.toolFailed (commandLine exe [flag]) "exit status: 0" "<empty>"))
          else
            .debug s!"result for '{commandLine exe [flag]}': {dir}" <|
            .done (.ok (some ⟨.ofText dir, some exe, some version⟩))

/-- The library of a driver lies in `lib` of the prefix that the driver is installed under. -/
def inquireClangDriver (platform : Platform) : Inquiry ProbeOutcome :=
  if platform.windows then .done (.ok none)
  else
    .find "clang++" fun
    | none => .done (.ok none)
    | some exe =>
      .debug s!"'clang++' found: {exe.display}" <|
      .run exe ["--version"] fun output =>
        .debug s!"'clang++' full version:\n{output}" <|
        match driverVersion? output with
        | none => .done (.error (.unparseableVersion exe ((firstLine? output).getD "")))
        | some version =>
          match installPrefix? platform.canonical? exe with
          | none => .done (.error (.layout exe "driver path has no parent directory"))
          | some base => .done (.ok (some ⟨base.join (.ofText "lib"), some exe, some version⟩))

/-- On Windows the library lies beside the driver. -/
def inquireWindowsClangDriver (platform : Platform) : Inquiry ProbeOutcome :=
  if platform.windows then
    .find "clang++" fun
    | none => .done (.ok none)
    | some exe =>
      match exe.directory? with
      | none => .done (.ok none)
      | some dir =>
        .debug s!"in windows: assuming library dir {dir.display}" <|
        .done (.ok (some ⟨dir, some exe, none⟩))
  else .done (.ok none)

/-- What the probe asks and what it makes of the answers. -/
def inquire (platform : Platform) : Probe → Inquiry ProbeOutcome
  | .explicit dir => .done (.ok (if dir.isEmpty then none else some (.directory dir)))
  | .libclangPath => filledVar "LIBCLANG_PATH" fun value =>
    .done (.ok (value.map fun v => .directory ⟨v⟩))
  | .llvmLibDir => filledVar "LLVM_LIB_DIR" fun value =>
    .done (.ok (value.map fun v => .directory (Path.join ⟨v⟩ (.ofText "bin"))))
  | .llvmConfig => inquireLlvmConfig platform
  | .clangDriver => inquireClangDriver platform
  | .windowsClangDriver => inquireWindowsClangDriver platform

end Probe

end ClangAccess
