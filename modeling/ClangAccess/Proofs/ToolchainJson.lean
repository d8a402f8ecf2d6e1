import ClangAccess.Proofs.GivenDirectory
import ClangAccess.Proofs.JsonText
import ClangAccess.Proofs.Overrides

namespace ClangAccess

/-- The bytes of a path are those of some text. -/
def Path.IsText (p : Path) : Prop := ∃ text, p = .ofText text

theorem Bytes.ofText_append (s t : String) : Bytes.ofText (s ++ t) = Bytes.ofText s ++ Bytes.ofText t := by
  rw [ofText, String.toList_append, List.flatMap_append]
  rfl

theorem Path.text?_eq_some {p : Path} {text : String} : p.text? = some text ↔ p = .ofText text := by
  obtain ⟨bytes⟩ := p
  rw [text?, Bytes.text?_eq_some, ofText, mk.injEq]

/-- The library in a directory whose path is a text has such a path itself. -/
theorem Path.IsText.join_libraryName {dir : Path} (text : dir.IsText) : (dir.join libraryName).IsText := by
  obtain ⟨s, rfl⟩ := text
  have relative : libraryName.isAbsolute = false := by decide
  unfold join
  rw [relative, if_neg nofun]
  split
  · exact ⟨s ++ "libclang.so", congrArg Path.mk (Bytes.ofText_append s _).symm⟩
  · have slashed : slash :: libraryName.bytes = Bytes.ofText "/libclang.so" := by decide
    rw [slashed]
    exact ⟨s ++ "/libclang.so", congrArg Path.mk (Bytes.ofText_append s _).symm⟩

theorem Locator.locate_libraryFile {l : Locator} {verbosity : LogLevel} {host : Host} {t : Toolchain}
    (located : ((l.locate verbosity host.toPlatform).conduct host).result = .ok t) :
    t.libraryFile = t.libraryDir.join libraryName := by
  rw [(l.locate_account verbosity host).1] at located
  obtain ⟨before, probe, after, found, split, missed, finds⟩ | missed := finds_or_misses host l.probes
  · rw [split, (search_first missed finds).1] at located
    cases located
    rfl
  · rw [(search_exhausted missed).1] at located
    cases located

namespace Toolchain

theorem jsonPath_eq_ok {p : Path} {written : String} :
    jsonPath p = .ok written ↔ ∃ text, p = .ofText text ∧ jsonString text = written := by
  unfold jsonPath
  cases read : p.text? with
  | none =>
    refine iff_of_false nofun ?_
    rintro ⟨text, same, _⟩
    exact nomatch read.symm.trans (Path.text?_eq_some.mpr same)
  | some text =>
    have only : ∀ other, p = .ofText other ↔ other = text := fun other => by
      rw [← Path.text?_eq_some, read, Option.some.injEq, eq_comm]
    simp [only]

theorem jsonPath?_eq_ok {p : Option Path} {written : String} :
    jsonPath? p = .ok written ↔
      ∃ text : Option String, p = text.map .ofText ∧ jsonOption jsonString text = written := by
  cases p with
  | none =>
    constructor
    · rintro ⟨⟩
      exact ⟨none, rfl, rfl⟩
    · rintro ⟨text, same, rfl⟩
      rw [Option.map_eq_none_iff.mp same.symm]
      rfl
  | some p =>
    refine jsonPath_eq_ok.trans ?_
    constructor
    · rintro ⟨text, rfl, rfl⟩
      exact ⟨some text, rfl, rfl⟩
    · rintro ⟨text, same, rfl⟩
      obtain ⟨text, rfl, rfl⟩ := Option.map_eq_some_iff.mp same.symm
      exact ⟨text, rfl, rfl⟩

/-- The fields of a toolchain whose paths are texts. -/
def jsonFields (t : Toolchain) (executable : Option String) (dir file : String) : List (String × String) :=
  [("source", jsonString t.source.key), ("executable", jsonOption jsonString executable),
    ("version", jsonOption jsonString t.version), ("library_dir", jsonString dir), ("library_file", jsonString file)]

theorem json_eq_ok {t : Toolchain} {written : String} : t.json = .ok written ↔ ∃ executable dir file,
    t.executable = Option.map .ofText executable ∧ t.libraryDir = .ofText dir ∧ t.libraryFile = .ofText file ∧
      jsonObject (t.jsonFields executable dir file) = written := by
  simp only [json, Except.bind_eq_ok, jsonPath_eq_ok, jsonPath?_eq_ok]
  constructor
  · rintro ⟨_, ⟨executable, e, rfl⟩, _, ⟨dir, d, rfl⟩, _, ⟨file, f, rfl⟩, same⟩
    exact ⟨executable, dir, file, e, d, f, Except.ok.inj same⟩
  · rintro ⟨executable, dir, file, e, d, f, rfl⟩
    exact ⟨_, ⟨executable, e, rfl⟩, _, ⟨dir, d, rfl⟩, _, ⟨file, f, rfl⟩, rfl⟩

end Toolchain

theorem Source.key_injective : Function.Injective Source.key := by
  intro s t
  cases s <;> cases t <;> decide

theorem Toolchain.json_inj {t u : Toolchain} {written : String} (first : t.json = .ok written)
    (second : u.json = .ok written) : t = u := by
  obtain ⟨executable, dir, file, e, d, f, rfl⟩ := json_eq_ok.mp first
  obtain ⟨executable', dir', file', e', d', f', same⟩ := json_eq_ok.mp second
  have text := jsonString_selfDelimiting
  have optional := jsonOption_selfDelimiting
  have keyed := text.comp Source.key_injective
  have alike : List.Forall₂ FieldAlike (u.jsonFields executable' dir' file') (t.jsonFields executable dir file) :=
    .cons (keyed.fieldAlike "source" u.source t.source) <|
    .cons (optional.fieldAlike "executable" executable' executable) <|
    .cons (optional.fieldAlike "version" u.version t.version) <|
    .cons (text.fieldAlike "library_dir" dir' dir) <|
    .cons (text.fieldAlike "library_file" file' file) .nil
  have fields := jsonObject_inj alike same
  simp only [jsonFields, List.cons.injEq, Prod.mk.injEq, true_and, and_true] at fields
  obtain ⟨sources, executables, versions, dirs, files⟩ := fields
  cases t
  cases u
  rw [mk.injEq]
  exact ⟨(keyed.injective sources).symm, e.trans (optional.injective executables ▸ e'.symm),
    (optional.injective versions).symm, d.trans (text.injective dirs ▸ d'.symm),
    f.trans (text.injective files ▸ f'.symm)⟩

/-- A toolchain whose library lies in its directory is written exactly if its directory and its executable are texts. -/
theorem Toolchain.json_written_iff {t : Toolchain} (placed : t.libraryFile = t.libraryDir.join libraryName) :
    (∃ written, t.json = .ok written) ↔ t.libraryDir.IsText ∧ ∀ executable, t.executable = some executable →
      executable.IsText := by
  constructor
  · rintro ⟨written, json⟩
    obtain ⟨executable, dir, file, e, d, f, _⟩ := json_eq_ok.mp json
    refine ⟨⟨dir, d⟩, fun path named => ?_⟩
    obtain ⟨text, _, same⟩ := Option.map_eq_some_iff.mp (e.symm.trans named)
    exact ⟨text, same.symm⟩
  · rintro ⟨⟨dir, d⟩, executables⟩
    obtain ⟨file, f⟩ : t.libraryFile.IsText := placed ▸ Path.IsText.join_libraryName ⟨dir, d⟩
    cases named : t.executable with
    | none => exact ⟨_, json_eq_ok.mpr ⟨none, dir, file, named, d, f, rfl⟩⟩
    | some path =>
      obtain ⟨text, rfl⟩ := executables path named
      exact ⟨_, json_eq_ok.mpr ⟨some text, dir, file, named, d, f, rfl⟩⟩

/-- What a run prints of a toolchain that is to be written as JSON. -/
structure PrintedAsJson (t : Toolchain) (i : Invocation) (run : ProgramRun) : Prop where
  written : ∀ text, t.json = .ok text → run.stdout = text ++ "\n" ∧ run.exitCode = 0
  refused : (∀ text, t.json ≠ .ok text) → run.stdout = "" ∧ run.exitCode = 1 ∧
    run.stderr = ProgramRun.logText i.logLevel run.process ++ "Error: path contains invalid UTF-8 characters\n"

theorem ProgramRun.showToolchain_json (t : Toolchain) (i : Invocation) (p : Process) :
    PrintedAsJson t i (showToolchain i.logLevel true t p) := by
  constructor
  case written =>
    intro text json
    simp only [showToolchain, json, if_true, and_self]
  case refused =>
    intro none
    cases json : t.json with
    | ok text => exact absurd json (none text)
    | error e =>
      cases e
      simp only [showToolchain, json, if_true]
      exact ⟨rfl, rfl, by rw [failed, String.append_assoc, String.append_assoc]; rfl⟩

/-- The JSON of a toolchain stands for it: a search gives one that cannot be written only if its directory or its
executable is no text, and no two toolchains are written alike. -/
theorem toolchain_json_faithful :
    (∀ (l : Locator) (verbosity : LogLevel) (host : Host) (t : Toolchain),
      ((l.locate verbosity host.toPlatform).conduct host).result = .ok t →
      ((∃ written, t.json = .ok written) ↔ t.libraryDir.IsText ∧ ∀ executable, t.executable = some executable →
        executable.IsText)) ∧
    (∀ (t u : Toolchain) (written : String), t.json = .ok written → u.json = .ok written → t = u) ∧
    ∀ (arguments : List Bytes) (i : Invocation), Invocation.ofArguments arguments = .ok i → i.action = .locate true →
      ∀ stream host view t, (i.search host).result = .ok t →
        PrintedAsJson t i (runProgramOn stream host view arguments) := by
  refine ⟨fun l verbosity host t located => Toolchain.json_written_iff (Locator.locate_libraryFile located),
    fun t u written => Toolchain.json_inj, fun arguments i accepted asked stream host view t found => ?_⟩
  rw [runProgramOn_accepted stream host view accepted, ProgramRun.perform_locate stream host view asked found]
  exact ProgramRun.showToolchain_json t i (i.searched host)

def jsonWords (dir : Bytes) : List Bytes := ["cxxast", "locate", "--json", "--libclang-dir"].map Bytes.ofText ++ [dir]

def jsonInvocation (dir : Bytes) : Invocation := ⟨.info, some ⟨dir⟩, .locate true⟩

/-- A directory with a quote in its name is written, and one that is no text is not. -/
theorem raw_directory_not_written :
    let quoted : Toolchain := .ofDiscovery .explicit (.directory (.ofText "a\"b"))
    let raw : Toolchain := .ofDiscovery .explicit (.directory ⟨[0xFF]⟩)
    ((jsonInvocation (Bytes.ofText "a\"b")).search bareHost).result = .ok quoted ∧
      (∃ written, quoted.json = .ok written ∧ ∀ u : Toolchain, u.json = .ok written → quoted = u) ∧
      Invocation.ofArguments (jsonWords [0xFF]) = .ok (jsonInvocation [0xFF]) ∧
      ((jsonInvocation [0xFF]).search bareHost).result = .ok raw ∧ (∀ written, raw.json ≠ .ok written) ∧
      (runProgramOn .plain bareHost stockedFiles (jsonWords [0xFF])).stdout = "" ∧
      (runProgramOn .plain bareHost stockedFiles (jsonWords [0xFF])).exitCode = 1 := by
  intro quoted raw
  obtain ⟨exactly, injective, printed⟩ := toolchain_json_faithful
  have accepted : Invocation.ofArguments (jsonWords [0xFF]) = .ok (jsonInvocation [0xFF]) := rfl
  have quotedFound : ((jsonInvocation (Bytes.ofText "a\"b")).search bareHost).result = .ok quoted :=
    Invocation.search_given rfl rfl bareHost
  have rawFound : ((jsonInvocation [0xFF]).search bareHost).result = .ok raw := Invocation.search_given rfl rfl bareHost
  obtain ⟨written, json⟩ := (exactly _ .info bareHost quoted quotedFound).mpr ⟨⟨"a\"b", rfl⟩, nofun⟩
  have unwritten : ∀ written, raw.json ≠ .ok written := by
    intro written json
    obtain ⟨⟨text, same⟩, _⟩ := (exactly _ .info bareHost raw rawFound).mp ⟨written, json⟩
    exact nomatch (Path.text?_eq_some.mpr same).symm.trans (show raw.libraryDir.text? = none by decide)
  have whole := printed (jsonWords [0xFF]) _ accepted rfl .plain bareHost stockedFiles raw rawFound
  have refused := whole.refused unwritten
  exact ⟨quotedFound, ⟨written, json, fun u => injective quoted u written json⟩, accepted, rawFound, unwritten,
    refused.1, refused.2.1⟩

end ClangAccess
