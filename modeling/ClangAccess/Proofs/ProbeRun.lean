import ClangAccess.Proofs.SearchOrder

namespace ClangAccess

/-- A variable that is not set, or set to nothing but blanks. -/
def Host.Unset (host : Host) (name : String) : Prop :=
  ∀ value : Bytes, host.answer (.env name) = some value → Probe.isBlankValue value = true

/-- All the ways in which a probe can go on a host: what comes of it and what it asks. -/
inductive ProbeRun (host : Host) : Probe → ProbeOutcome → List Query → Prop
  | noDirectory {dir} : dir.isEmpty = true → ProbeRun host (.explicit dir) (.ok none) []
  | directory {dir} : dir.isEmpty = false → ProbeRun host (.explicit dir) (.ok (some ⟨dir, none, none⟩)) []
  | pathUnset : host.Unset "LIBCLANG_PATH" → ProbeRun host .libclangPath (.ok none) [.env "LIBCLANG_PATH"]
  | path {value} : host.answer (.env "LIBCLANG_PATH") = some value → Probe.isBlankValue value = false →
      ProbeRun host .libclangPath (.ok (some ⟨⟨value⟩, none, none⟩)) [.env "LIBCLANG_PATH"]
  | rootUnset : host.Unset "LLVM_LIB_DIR" → ProbeRun host .llvmLibDir (.ok none) [.env "LLVM_LIB_DIR"]
  | root {value} : host.answer (.env "LLVM_LIB_DIR") = some value → Probe.isBlankValue value = false →
      ProbeRun host .llvmLibDir (.ok (some ⟨Path.join ⟨value⟩ (.ofText "bin"), none, none⟩)) [.env "LLVM_LIB_DIR"]
  | noTool : host.answer (.find "llvm-config") = none →
      ProbeRun host .llvmConfig (.ok none) [.find "llvm-config"]
  | toolFailed {exe e} : host.answer (.find "llvm-config") = some exe →
      host.answer (.run exe ["--version"]) = .error e →
      ProbeRun host .llvmConfig (.error e) [.find "llvm-config", .run exe ["--version"]]
  | toolUnversioned {exe said} : host.answer (.find "llvm-config") = some exe →
      host.answer (.run exe ["--version"]) = .ok said → plainVersion? said = none →
      ProbeRun host .llvmConfig (.error (.unparseableVersion exe said))
        [.find "llvm-config", .run exe ["--version"]]
  | toolMute {exe said version e} : host.answer (.find "llvm-config") = some exe →
      host.answer (.run exe ["--version"]) = .ok said → plainVersion? said = some version →
      host.answer (.run exe [Probe.directoryFlag host.windows]) = .error e →
      ProbeRun host .llvmConfig (.error e)
        [.find "llvm-config", .run exe ["--version"], .run exe [Probe.directoryFlag host.windows]]
  | toolBlank {exe said version output} : host.answer (.find "llvm-config") = some exe →
      host.answer (.run exe ["--version"]) = .ok said → plainVersion? said = some version →
      host.answer (.run exe [Probe.directoryFlag host.windows]) = .ok output →
      (Probe.reportedDirectory output).isEmpty = true →
      ProbeRun host .llvmConfig
        (.error (.toolFailed (commandLine exe [Probe.directoryFlag host.windows]) "exit status: 0" "<empty>"))
        [.find "llvm-config", .run exe ["--version"], .run exe [Probe.directoryFlag host.windows]]
  | tool {exe said version output} : host.answer (.find "llvm-config") = some exe →
      host.answer (.run exe ["--version"]) = .ok said → plainVersion? said = some version →
      host.answer (.run exe [Probe.directoryFlag host.windows]) = .ok output →
      (Probe.reportedDirectory output).isEmpty = false →
      ProbeRun host .llvmConfig (.ok (some ⟨.ofText (Probe.reportedDirectory output), some exe, some version⟩))
        [.find "llvm-config", .run exe ["--version"], .run exe [Probe.directoryFlag host.windows]]
  | driverOnWindows : host.windows = true → ProbeRun host .clangDriver (.ok none) []
  | noDriver : host.windows = false → host.answer (.find "clang++") = none →
      ProbeRun host .clangDriver (.ok none) [.find "clang++"]
  | driverFailed {exe e} : host.windows = false → host.answer (.find "clang++") = some exe →
      host.answer (.run exe ["--version"]) = .error e →
      ProbeRun host .clangDriver (.error e) [.find "clang++", .run exe ["--version"]]
  | driverUnversioned {exe said} : host.windows = false → host.answer (.find "clang++") = some exe →
      host.answer (.run exe ["--version"]) = .ok said → driverVersion? said = none →
      ProbeRun host .clangDriver (.error (.unparseableVersion exe ((firstLine? said).getD "")))
        [.find "clang++", .run exe ["--version"]]
  | driverMisplaced {exe said version} : host.windows = false → host.answer (.find "clang++") = some exe →
      host.answer (.run exe ["--version"]) = .ok said → driverVersion? said = some version →
      Probe.installPrefix? host.canonical? exe = none →
      ProbeRun host .clangDriver (.error (.layout exe "driver path has no parent directory"))
        [.find "clang++", .run exe ["--version"]]
  | driver {exe said version base} : host.windows = false → host.answer (.find "clang++") = some exe →
      host.answer (.run exe ["--version"]) = .ok said → driverVersion? said = some version →
      Probe.installPrefix? host.canonical? exe = some base →
      ProbeRun host .clangDriver (.ok (some ⟨base.join (.ofText "lib"), some exe, some version⟩))
        [.find "clang++", .run exe ["--version"]]
  | notOnWindows : host.windows = false → ProbeRun host .windowsClangDriver (.ok none) []
  | noWindowsDriver : host.windows = true → host.answer (.find "clang++") = none →
      ProbeRun host .windowsClangDriver (.ok none) [.find "clang++"]
  | windowsDriverMisplaced {exe : Path} : host.windows = true → host.answer (.find "clang++") = some exe →
      exe.directory? = none → ProbeRun host .windowsClangDriver (.ok none) [.find "clang++"]
  | windowsDriver {exe dir : Path} : host.windows = true → host.answer (.find "clang++") = some exe →
      exe.directory? = some dir →
      ProbeRun host .windowsClangDriver (.ok (some ⟨dir, some exe, none⟩)) [.find "clang++"]

namespace Probe

variable (host : Host)

theorem explicit_runs (dir : Path) :
    ProbeRun host (.explicit dir) (outcome host (.explicit dir)) (calls host (.explicit dir)) := by
  simp only [outcome, calls, inquire, Inquiry.conduct]
  cases empty : dir.isEmpty with
  | true => exact .noDirectory empty
  | false => exact .directory empty

theorem filledVar_account (name : String) (make : Bytes → Discovery) :
    let account := (filledVar name fun value => .done (Except.ok (value.map make)) :
      Inquiry ProbeOutcome).conduct host
    account.calls = [.env name] ∧ ((host.Unset name ∧ account.result = .ok none) ∨
      ∃ value : Bytes, host.answer (.env name) = some value ∧ isBlankValue value = false ∧
        account.result = .ok (some (make value))) := by
  refine ⟨rfl, ?_⟩
  simp only [filledVar, Inquiry.env, Inquiry.conduct, Host.Unset]
  cases answered : host.answer (.env name) with
  | none => exact Or.inl ⟨by simp, rfl⟩
  | some value =>
    cases blank : isBlankValue value with
    | true =>
      refine Or.inl ⟨fun other same => ?_, by simp [Option.filter, blank]⟩
      rw [← Option.some.inj same, blank]
    | false => exact Or.inr ⟨value, rfl, blank, by simp [Option.filter, blank]⟩

theorem libclangPath_runs : ProbeRun host .libclangPath (outcome host .libclangPath) (calls host .libclangPath) := by
  obtain ⟨asked, ⟨unset, came⟩ | ⟨value, set, filled, came⟩⟩ :=
    filledVar_account host "LIBCLANG_PATH" fun v => .directory ⟨v⟩
  · rw [outcome, calls, inquire, asked, came]
    exact .pathUnset unset
  · rw [outcome, calls, inquire, asked, came]
    exact .path set filled

theorem llvmLibDir_runs : ProbeRun host .llvmLibDir (outcome host .llvmLibDir) (calls host .llvmLibDir) := by
  obtain ⟨asked, ⟨unset, came⟩ | ⟨value, set, filled, came⟩⟩ :=
    filledVar_account host "LLVM_LIB_DIR" fun v => .directory (Path.join ⟨v⟩ (.ofText "bin"))
  · rw [outcome, calls, inquire, asked, came]
    exact .rootUnset unset
  · rw [outcome, calls, inquire, asked, came]
    exact .root set filled

theorem llvmConfig_runs : ProbeRun host .llvmConfig (outcome host .llvmConfig) (calls host .llvmConfig) := by
  simp only [outcome, calls, inquire, inquireLlvmConfig, Inquiry.find, Inquiry.conduct]
  cases found : host.answer (.find "llvm-config") with
  | none => exact .noTool found
  | some exe =>
    simp only [Inquiry.debug, Inquiry.run, Inquiry.conduct]
    cases ran : host.answer (.run exe ["--version"]) with
    | error e => exact .toolFailed found ran
    | ok said =>
      cases parsed : plainVersion? said with
      | none =>
        simp only [Inquiry.conduct, parsed]
        exact .toolUnversioned found ran parsed
      | some version =>
        simp only [Inquiry.conduct, parsed]
        cases reran : host.answer (.run exe [directoryFlag host.windows]) with
        | error e => exact .toolMute found ran parsed reran
        | ok output =>
          cases blank : (reportedDirectory output).isEmpty with
          | true =>
            simp only [blank]
            exact .toolBlank found ran parsed reran blank
          | false =>
            simp only [blank]
            exact .tool found ran parsed reran blank

theorem clangDriver_runs : ProbeRun host .clangDriver (outcome host .clangDriver) (calls host .clangDriver) := by
  simp only [outcome, calls, inquire, inquireClangDriver]
  cases windows : host.windows with
  | true => exact .driverOnWindows windows
  | false =>
    simp only [Inquiry.find, Inquiry.conduct, Bool.false_eq_true, if_false]
    cases found : host.answer (.find "clang++") with
    | none => exact .noDriver windows found
    | some exe =>
      simp only [Inquiry.debug, Inquiry.run, Inquiry.conduct]
      cases ran : host.answer (.run exe ["--version"]) with
      | error e => exact .driverFailed windows found ran
      | ok said =>
        cases parsed : driverVersion? said with
        | none =>
          simp only [Inquiry.conduct, parsed]
          exact .driverUnversioned windows found ran parsed
        | some version =>
          cases placed : installPrefix? host.canonical? exe with
          | none =>
            simp only [Inquiry.conduct, parsed]
            exact .driverMisplaced windows found ran parsed placed
          | some base =>
            simp only [Inquiry.conduct, parsed]
            exact .driver windows found ran parsed placed

theorem windowsClangDriver_runs :
    ProbeRun host .windowsClangDriver (outcome host .windowsClangDriver) (calls host .windowsClangDriver) := by
  simp only [outcome, calls, inquire, inquireWindowsClangDriver]
  cases windows : host.windows with
  | false => exact .notOnWindows windows
  | true =>
    simp only [Inquiry.find, Inquiry.conduct, if_true]
    cases found : host.answer (.find "clang++") with
    | none => exact .noWindowsDriver windows found
    | some exe =>
      cases placed : exe.directory? with
      | none =>
        simp only [Inquiry.conduct, placed]
        exact .windowsDriverMisplaced windows found placed
      | some dir =>
        simp only [Inquiry.debug, Inquiry.conduct, placed]
        exact .windowsDriver windows found placed

/-- Every probe goes in one of the ways there are. -/
theorem runs (probe : Probe) : ProbeRun host probe (probe.outcome host) (probe.calls host) := by
  cases probe with
  | explicit dir => exact explicit_runs host dir
  | libclangPath => exact libclangPath_runs host
  | llvmLibDir => exact llvmLibDir_runs host
  | llvmConfig => exact llvmConfig_runs host
  | clangDriver => exact clangDriver_runs host
  | windowsClangDriver => exact windowsClangDriver_runs host

end Probe

end ClangAccess
