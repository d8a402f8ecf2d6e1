import ClangAccess.Proofs.Conversion
import ClangAccess.Proofs.LockStep
import ClangAccess.Proofs.OpenedOnce
import ClangAccess.Proofs.ProgramStages

namespace ClangAccess

/-- The line that a place stands in, zero if there is no place. -/
inductive StandsIn : Option ForeignPlace → UInt32 → Prop
  | nowhere : StandsIn none 0
  | inFile {place} : StandsIn (some place) place.line

/-- The record that is printed for a node. What its kind is called is up to the library. -/
inductive DeclarationPrinted (names : Int → ForeignText) (file : Path) (n : ForeignNode) : String → Prop
  | mk {line kindName spelling} : StandsIn n.place line → TextTaken (names n.kind) kindName →
      TextTaken n.spelling spelling →
      DeclarationPrinted names file n s!"{file.display}:{line}: {kindName} {spelling}\n"

theorem ForeignNode.line_printed (names : Int → ForeignText) (file : Path) (n : ForeignNode) :
    DeclarationPrinted names file n (n.line names file) := by
  have place : StandsIn n.place ((n.place.map ForeignPlace.line).getD 0) := by
    cases n.place with
    | none => exact .nowhere
    | some place => exact .inFile
  exact .mk place (names n.kind).decoded_taken n.spelling.decoded_taken

/-- What a run prints for a unit: a record for each node directly below the root that stands in the main file,
after all that is told the report, and an exit code that tells whether there were errors. A terminal gets the report in
red if there were errors, and in yellow if not. -/
structure UnitPrinted (stream : ErrorStream) (names : Int → ForeignText) (file : Path) (content : ForeignUnit)
    (diagnostics : List Diagnostic) (told : String) (run : ProgramRun) : Prop where
  stdout : ∃ records,
    List.Forall₂ (DeclarationPrinted names file) (content.root.children.filter ForeignNode.inMainFile) records ∧
      run.stdout = String.join records
  taken : List.Forall₂ DiagnosticTaken content.diagnostics diagnostics
  stderr : stream.isTerminal = false → run.stderr = told ++ report diagnostics
  coloured : stream.isTerminal = true → diagnostics ≠ [] →
    ∃ colour, run.stderr = told ++ stream.coloured colour (report diagnostics) ∧
      (colour = .red ↔ ∃ d ∈ diagnostics, d.severity = .error ∨ d.severity = .fatal)
  unreported : diagnostics = [] → run.stderr = told
  faulty : (∃ d ∈ diagnostics, d.severity = .error ∨ d.severity = .fatal) → run.exitCode = 1
  sound : (∀ d ∈ diagnostics, d.severity ≠ .error ∧ d.severity ≠ .fatal) → run.exitCode = 0

theorem Severity.isError_eq_true {s : Severity} : s.isError = true ↔ s = .error ∨ s = .fatal := by
  cases s <;> decide

theorem ParsedUnit.hasErrors_iff {u : ParsedUnit} :
    u.hasErrors = true ↔ ∃ d ∈ u.diagnostics, d.severity = .error ∨ d.severity = .fatal := by
  simp only [hasErrors, anyError, List.any_eq_true, Severity.isError_eq_true]

/-- Where a unit comes from: the library that it was made with, and what that handed over for the file with the code
for success. -/
structure ParsedUnit.ComesFrom (u : ParsedUnit) (view : FileView) (file : Path) (found : SharedLibrary)
    (content : ForeignUnit) : Prop where
  names : u.library.kindName = found.kindName
  reply : view.reply file = ⟨0, some content⟩
  rootNode : u.rootNode = content.root
  diagnostics : u.diagnostics = content.diagnostics.map ForeignDiagnostic.decoded

namespace ProgramRun

theorem shownReport_plain {stream : ErrorStream} (u : ParsedUnit) (plain : stream.isTerminal = false) :
    shownReport stream u = report u.diagnostics := by
  cases diagnostics : u.diagnostics with
  | nil => simp [shownReport, diagnostics, report]
  | cons => simp [shownReport, diagnostics, plain]

theorem shownReport_terminal {stream : ErrorStream} {u : ParsedUnit} (terminal : stream.isTerminal = true)
    (some : u.diagnostics ≠ []) :
    shownReport stream u = stream.coloured (if u.hasErrors then .red else .yellow) (report u.diagnostics) := by
  simp [shownReport, terminal, some]

theorem showUnit_printed (stream : ErrorStream) (verbosity : LogLevel) {view : FileView} {file : Path}
    {u : ParsedUnit} {found : SharedLibrary} {content : ForeignUnit} (p : Process)
    (source : u.ComesFrom view file found content) :
    UnitPrinted stream found.kindName file content u.diagnostics (logText verbosity p)
      (showUnit stream verbosity file u p) := by
  obtain ⟨ledger, used, shown, _⟩ := showUnit_run stream verbosity file u p
  rw [shown]
  constructor
  case stdout =>
    refine ⟨_, ?_, rfl⟩
    rw [source.rootNode, source.names]
    exact List.forall₂_map_right_iff.mpr (List.forall₂_same.mpr fun n _ => n.line_printed found.kindName file)
  case taken =>
    rw [source.diagnostics]
    exact ForeignDiagnostic.map_decoded_taken content.diagnostics
  case stderr => exact fun plain => congrArg (logText verbosity p ++ ·) (shownReport_plain u plain)
  case coloured =>
    intro terminal some
    refine ⟨_, congrArg (logText verbosity p ++ ·) (shownReport_terminal terminal some), ?_⟩
    rw [← ParsedUnit.hasErrors_iff]
    cases u.hasErrors <;> simp
  case unreported =>
    intro none
    simp only [shownReport, none, List.isEmpty_nil, if_true, String.append_empty]
  case faulty => exact fun grave => if_pos (ParsedUnit.hasErrors_iff.mpr grave)
  case sound =>
    intro mild
    refine if_neg fun faulty => ?_
    obtain ⟨d, member, error | fatal⟩ := ParsedUnit.hasErrors_iff.mp faulty
    · exact (mild d member).1 error
    · exact (mild d member).2 fatal

end ProgramRun

theorem FileView.opened_file {view : FileView} {path : Path} {library : Library}
    (opened : view.opened path = .ok library) :
    ∃ found, view.library path = .ok found ∧ library = ⟨found.file, found.givesNoIndex, found.kindName⟩ := by
  have linked := Process.openLibrary_linked {} view path
  cases there : view.library path with
  | error reason => exact nomatch opened.symm.trans (linked.unloadable reason rfl there)
  | ok found => exact ⟨found, rfl, linked.linked found library (Process.brings_of_empty rfl there) opened⟩

/-- A unit was made with the library in the directory that was found. -/
theorem Produced.comesFrom {host : Host} {view : FileView} {i : Invocation} {request : ParseRequest}
    {u : ParsedUnit} {q : Process} (produced : Produced host view i request (.ok u) q) :
    ∃ toolchain found content, (i.search host).result = .ok toolchain ∧
      view.library (requested view toolchain.libraryDir) = .ok found ∧
      u.ComesFrom view request.file found content := by
  obtain ⟨_, _, strange, _⟩ | ⟨toolchain, p, located, ready, ⟨_, _, strange⟩ | ⟨_, parsed⟩⟩ := produced.stages
  · exact nomatch strange
  · exact nomatch strange
  · obtain ⟨result, _, _, _, run, _, _, _, outcome⟩ := Session.parse_outcome view
      ⟨0, requested view toolchain.libraryDir⟩ request.file request.clangArgs request.options p
    obtain ⟨rfl, _⟩ := Prod.mk.inj (run.symm.trans parsed)
    cases outcome with
    | parsed _ opened _ _ reply _ =>
      rw [ready.opening] at opened
      obtain ⟨found, there, rfl⟩ := FileView.opened_file opened
      exact ⟨toolchain, found, _, located, there, rfl, reply, rfl, rfl⟩

/-- What a run that is to parse prints. -/
structure ParsePrinted (stream : ErrorStream) (host : Host) (view : FileView) (i : Invocation)
    (request : ParseRequest) (result : Except ClangError ParsedUnit) (q : Process) (run : ProgramRun) : Prop where
  /-- The names of kinds are those of the library in the directory that was found. -/
  unit : ∀ u, result = .ok u → ∃ toolchain found content, (i.search host).result = .ok toolchain ∧
    view.library (requested view toolchain.libraryDir) = .ok found ∧ view.reply request.file = ⟨0, some content⟩ ∧
    UnitPrinted stream found.kindName request.file content u.diagnostics (ProgramRun.logText i.logLevel q) run
  failure : ∀ e, result = .error e → run.stdout = "" ∧ run.exitCode = 1 ∧
    run.stderr = ProgramRun.logText i.logLevel q ++ "Error: " ++ e.message ++ "\n"

/-- Whatever comes of a request to parse is told in full, at every verbosity, on a terminal and elsewhere. -/
theorem parse_run_printed (stream : ErrorStream) (host : Host) (view : FileView) (arguments : List Bytes)
    (i : Invocation) (request : ParseRequest) (accepted : Invocation.ofArguments arguments = .ok i)
    (asked : i.action = .parse request) :
    ∃ result q, Produced host view i request result q ∧
      ParsePrinted stream host view i request result q (runProgramOn stream host view arguments) := by
  obtain ⟨result, q, produced, performed⟩ := ProgramRun.perform_parse stream host view asked
  refine ⟨result, q, produced, ?_⟩
  rw [runProgramOn_accepted stream host view accepted, performed]
  constructor
  case unit =>
    rintro u rfl
    obtain ⟨toolchain, found, content, located, there, source⟩ := produced.comesFrom
    exact ⟨toolchain, found, content, located, there, source.reply,
      ProgramRun.showUnit_printed stream i.logLevel q source⟩
  case failure =>
    rintro e rfl
    exact ⟨rfl, rfl, rfl⟩

/-- A library and a file that it makes a rough unit of. -/
def stockedFiles : FileView where
  isFile path := path = .ofText "a" ∨ path = .ofText "l/libclang.so"
  canonical? := some
  library _ := .ok ⟨0, [], false, roughLibrary.kindName⟩
  missingText _ _ := ""
  reply _ := ⟨0, some roughUnit⟩
  nulFree := by
    intro path file
    rcases of_decide_eq_true file with rfl | rfl <;> decide

def quietWords : List Bytes := ["cxxast", "-qq", "parse", "--libclang-dir", "l", "a"].map Bytes.ofText

def quietInvocation : Invocation := ⟨.error, some (.ofText "l"), .parse { file := .ofText "a" }⟩

/-- A terminal that changes its colour for a text. -/
def colourTerminal : ErrorStream where
  isTerminal := true
  coloured colour text := (match colour with | .red => "\x1b[31m" | .yellow => "\x1b[33m") ++ text ++ "\x1b[0m"

theorem rough_unit_printed :
    Invocation.ofArguments quietWords = .ok quietInvocation ∧
      quietInvocation.action = .parse { file := .ofText "a" } ∧
      ∃ u q, Produced bareHost stockedFiles quietInvocation { file := .ofText "a" } (.ok u) q ∧
        ParsePrinted colourTerminal bareHost stockedFiles quietInvocation { file := .ofText "a" } (.ok u) q
          (runProgramOn colourTerminal bareHost stockedFiles quietWords) ∧
        (runProgramOn colourTerminal bareHost stockedFiles quietWords).exitCode = 1 ∧
        (runProgramOn colourTerminal bareHost stockedFiles quietWords).stderr =
          ProgramRun.logText .error q ++ ("\x1b[31m" ++ report u.diagnostics ++ "\x1b[0m") := by
  have accepted : Invocation.ofArguments quietWords = .ok quietInvocation := rfl
  refine ⟨accepted, rfl, ?_⟩
  obtain ⟨result, q, produced, printed⟩ :=
    parse_run_printed colourTerminal bareHost stockedFiles quietWords quietInvocation { file := .ofText "a" } accepted
      rfl
  have found : (quietInvocation.search bareHost).result =
      .ok ⟨.explicit, none, none, .ofText "l", .ofText "l/libclang.so"⟩ := rfl
  obtain ⟨_, none, _⟩ | ⟨_, p, same, ready, ⟨absent, _⟩ | ⟨_, parsed⟩⟩ := produced.stages
  · exact nomatch found.symm.trans none
  · cases found.symm.trans same
    exact absurd absent (by decide)
  · cases found.symm.trans same
    obtain ⟨backends, openings, libraries, ledger, log⟩ := p
    obtain ⟨rfl, rfl, rfl, rfl⟩ := ready
    have opened : Process.opening { backends := 1, openings := [], libraries := [], ledger := #[], log } stockedFiles
        ⟨0, requested stockedFiles (.ofText "l")⟩ = .ok roughLibrary := rfl
    obtain ⟨u, _, diagnostics, run⟩ :=
      Session.parse_succeeds { file := .ofText "a" } (by decide) opened nofun rfl rfl
    obtain ⟨rfl, _⟩ := Prod.mk.inj (run.symm.trans parsed)
    refine ⟨u, q, produced, printed, ?_⟩
    obtain ⟨_, _, _, _, _, _, shown⟩ := printed.unit u rfl
    have grave : ∃ d ∈ u.diagnostics, d.severity = .error ∨ d.severity = .fatal := by
      rw [diagnostics]
      exact ⟨_, List.mem_cons_of_mem _ (List.mem_cons_self ..), Or.inr rfl⟩
    obtain ⟨colour, stderr, red⟩ := shown.coloured rfl (by simp [diagnostics, roughUnit])
    obtain rfl := red.mpr grave
    exact ⟨shown.faulty grave, stderr⟩

end ClangAccess
