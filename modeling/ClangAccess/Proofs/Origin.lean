import ClangAccess.Backend
import ClangAccess.Proofs.FirstLine
import ClangAccess.Proofs.ProbeRun

namespace ClangAccess

/-- Where a library directory comes from: what the source, the tool at hand and its version have to do with it. -/
inductive Origin (host : Host) (probes : List Probe) : Source → Path → Option Path → Option String → Prop
  | explicit {dir} : .explicit dir ∈ probes → Origin host probes .explicit dir none none
  | libclangPath {value} : .libclangPath ∈ probes → host.answer (.env "LIBCLANG_PATH") = some value →
      Origin host probes .libclangPath ⟨value⟩ none none
  | llvmLibDir {value} : .llvmLibDir ∈ probes → host.answer (.env "LLVM_LIB_DIR") = some value →
      Origin host probes .llvmLibDir (Path.join ⟨value⟩ (.ofText "bin")) none none
  | llvmConfig {exe said version output dir} : .llvmConfig ∈ probes →
      host.answer (.find "llvm-config") = some exe →
      host.answer (.run exe ["--version"]) = .ok said → plainVersion? said = some version →
      host.answer (.run exe [if host.windows then "--bindir" else "--libdir"]) = .ok output →
      TrimmedFirstLine output dir →
      Origin host probes .llvmConfig (.ofText dir) (some exe) (some version)
  | clangDriver {exe said version bin} : .clangDriver ∈ probes → host.windows = false →
      host.answer (.find "clang++") = some exe →
      host.answer (.run exe ["--version"]) = .ok said → driverVersion? said = some version →
      ((host.canonical? exe).getD exe).parent? = some bin → bin.isEmpty = false →
      Origin host probes .clangDriver ((bin.parent?.getD bin).join (.ofText "lib")) (some exe) (some version)
  | windowsClangDriver {exe dir : Path} : .windowsClangDriver ∈ probes → host.windows = true →
      host.answer (.find "clang++") = some exe → exe.parent? = some dir → dir.isEmpty = false →
      Origin host probes .windowsClangDriver dir (some exe) none

/-- A toolchain of which nothing is made up. -/
structure Toolchain.Genuine (t : Toolchain) (host : Host) (probes : List Probe) : Prop where
  directory : t.libraryDir.isEmpty = false
  file : t.libraryFile = t.libraryDir.join libraryName
  /-- The file is the one that a slot looks for in the directory, and the one that it misses. -/
  sought : ∀ (slot : Slot) view fresh path,
    (slot.configure view fresh t.libraryDir).result = .error (.libraryNotFound path) ↔
      view.isFile t.libraryFile = false ∧ path = t.libraryFile
  origin : Origin host probes t.source t.libraryDir t.executable t.version

namespace Path

theorem ofText_nonempty {s : String} (text : s.isEmpty = false) : (ofText s).isEmpty = false := by
  cases chars : s.toList with
  | nil =>
    rw [String.toList_eq_nil_iff.mp chars] at text
    exact nomatch text
  | cons c rest =>
    have encoded : String.utf8EncodeChar c ≠ [] := by
      intro none
      have size := String.length_utf8EncodeChar c
      have positive := Char.utf8Size_pos c
      rw [none, List.length_nil] at size
      omega
    simp [ofText, isEmpty, Bytes.ofText, chars, encoded]

theorem join_nonempty (p : Path) {q : Path} (named : q.isEmpty = false) : (p.join q).isEmpty = false := by
  unfold join
  split
  · exact named
  · split <;> simp [isEmpty] at named ⊢
    exact fun _ => named

theorem directory?_eq_some {p dir : Path} : p.directory? = some dir ↔ p.parent? = some dir ∧ dir.isEmpty = false := by
  simp [directory?, Option.filter_eq_some_iff]

end Path

theorem Slot.configure_missing (slot : Slot) (view : FileView) (fresh : Nat) (dir path : Path) :
    (slot.configure view fresh dir).result = .error (.libraryNotFound path) ↔
      view.isFile (dir.join libraryName) = false ∧ path = dir.join libraryName := by
  change _ ↔ view.isFile (candidate dir) = false ∧ path = candidate dir
  simp only [configure]
  generalize candidate dir = file
  split
  · rename_i present
    refine iff_of_false ?_ fun missing => nomatch present.symm.trans missing.1
    split
    · exact nofun
    · split <;> exact nofun
  · rename_i missing
    rw [Except.error.injEq, ClangError.libraryNotFound.injEq, eq_comm, and_iff_right (Bool.not_eq_true _ ▸ missing)]

namespace ProbeRun

variable {host : Host} {probe : Probe} {outcome : ProbeOutcome} {asked : List Query} {found : Discovery}

theorem found_eq {d : Discovery} (same : (.ok (some d) : ProbeOutcome) = .ok (some found)) : found = d :=
  (Option.some.inj (Except.ok.inj same)).symm

theorem directory_nonempty (run : ProbeRun host probe outcome asked) (finds : outcome = .ok (some found)) :
    found.libraryDir.isEmpty = false := by
  cases run with
  | directory named => rwa [found_eq finds]
  | path _ filled =>
    rename_i value _
    rw [found_eq finds]
    cases value with
    | nil => exact absurd filled (by decide)
    | cons => rfl
  | root =>
    rw [found_eq finds]
    exact Path.join_nonempty _ (Path.ofText_nonempty (by decide))
  | tool _ _ _ _ reported =>
    rw [found_eq finds]
    exact Path.ofText_nonempty reported
  | driver =>
    rw [found_eq finds]
    exact Path.join_nonempty _ (Path.ofText_nonempty (by decide))
  | windowsDriver _ _ placed =>
    rw [found_eq finds]
    exact (Path.directory?_eq_some.mp placed).2
  | _ => exact nomatch finds

theorem origin {probes : List Probe} (run : ProbeRun host probe outcome asked) (finds : outcome = .ok (some found))
    (member : probe ∈ probes) :
    Origin host probes probe.source found.libraryDir found.executable found.version := by
  cases run with
  | directory _ =>
    rw [found_eq finds]
    exact .explicit member
  | path set _ =>
    rw [found_eq finds]
    exact .libclangPath member set
  | root set _ =>
    rw [found_eq finds]
    exact .llvmLibDir member set
  | tool tool said parsed output _ =>
    rw [found_eq finds]
    exact .llvmConfig member tool said parsed output (reportedDirectory_spec _)
  | driver elsewhere tool said parsed placed =>
    obtain ⟨bin, above, rfl⟩ := Option.map_eq_some_iff.mp placed
    obtain ⟨parent, named⟩ := Path.directory?_eq_some.mp above
    rw [found_eq finds]
    exact .clangDriver member elsewhere tool said parsed parent named
  | windowsDriver windows tool placed =>
    obtain ⟨parent, named⟩ := Path.directory?_eq_some.mp placed
    rw [found_eq finds]
    exact .windowsClangDriver member windows tool parent named
  | _ => exact nomatch finds

end ProbeRun

/-- What a search finds was found by one of its probes. -/
theorem Locator.search_ok {host : Host} {probes : List Probe} {tried : List Attempt} {t : Toolchain}
    (result : ((search host.toPlatform probes tried).conduct host).result = .ok t) :
    ∃ probe ∈ probes, ∃ found, probe.outcome host = .ok (some found) ∧ t = .ofDiscovery probe.source found := by
  induction probes generalizing tried with
  | nil => simp [search, Inquiry.conduct] at result
  | cons first rest ih =>
    by_cases misses : first.Misses host
    · rw [(search_missed rest misses).1] at result
      obtain ⟨probe, member, finding⟩ := ih result
      exact ⟨probe, List.mem_cons_of_mem _ member, finding⟩
    · obtain ⟨found, finds⟩ := not_forall_not.mp misses
      rw [(search_found finds).1] at result
      exact ⟨first, List.mem_cons_self .., found, finds, (Except.ok.inj result).symm⟩

/-- A toolchain that is found is genuine, whatever host it is found on. -/
theorem found_toolchain_genuine (l : Locator) (verbosity : LogLevel) (host : Host) (t : Toolchain)
    (found : ((l.locate verbosity host.toPlatform).conduct host).result = .ok t) : t.Genuine host l.probes := by
  rw [(l.locate_account verbosity host).1] at found
  obtain ⟨probe, member, discovery, finds, rfl⟩ := Locator.search_ok found
  have run := probe.runs host
  constructor
  case directory => exact run.directory_nonempty finds
  case file => rfl
  case sought => exact fun slot view fresh path => slot.configure_missing view fresh discovery.libraryDir path
  case origin => exact run.origin finds member

def paddedHost : Host where
  windows := false
  canonical? _ := none
  answer
    | .env _ => none
    | .find name => if name = "llvm-config" then some (.ofText "/opt/llvm-config") else none
    | .run _ args => .ok (if args = ["--version"] then "17.0.6" else "\t/opt/lib \r\nmore")

def paddedToolchain : Toolchain where
  source := .llvmConfig
  executable := some (.ofText "/opt/llvm-config")
  version := some "17.0"
  libraryDir := .ofText "/opt/lib"
  libraryFile := .ofText "/opt/lib/libclang.so"

/-- The padding is not part of the directory. -/
theorem padded_toolchain_genuine :
    (((⟨Probe.defaults⟩ : Locator).locate .off paddedHost.toPlatform).conduct paddedHost).result =
        .ok paddedToolchain ∧
      paddedToolchain.Genuine paddedHost Probe.defaults :=
  ⟨rfl, found_toolchain_genuine ⟨Probe.defaults⟩ .off paddedHost paddedToolchain rfl⟩

end ClangAccess
