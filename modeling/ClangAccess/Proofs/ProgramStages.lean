import ClangAccess.Program
import ClangAccess.Proofs.ConfigureOnce
import ClangAccess.Proofs.ParseStages

namespace ClangAccess

/-- The search for libclang that a command line leads to. -/
def Invocation.search (i : Invocation) (host : Host) : Account (Except ClangError Toolchain) :=
  ((Locator.withExplicitDir {} i.libclangDir).locate i.logLevel host.toPlatform).conduct host

/-- The program when all that it has done is to search. -/
def Invocation.searched (i : Invocation) (host : Host) : Process := Process.tell {} (i.search host).log

/-- What comes of a command line that asks to parse, by the stages that it passes: the search for libclang, the
choice of its library, the parse. The first that fails ends it. -/
inductive Produced (host : Host) (view : FileView) (i : Invocation) (request : ParseRequest) :
    Except ClangError ParsedUnit → Process → Prop
  | unlocated {e} : (i.search host).result = .error e → Produced host view i request (.error e) (i.searched host)
  | unconfigured {toolchain e slot q} : (i.search host).result = .ok toolchain →
      (Session.configure view {} toolchain.libraryDir).run (i.searched host) = ((.error e, slot), q) →
      Produced host view i request (.error e) q
  | tried {toolchain backend slot q result r} : (i.search host).result = .ok toolchain →
      (Session.configure view {} toolchain.libraryDir).run (i.searched host) = ((.ok backend, slot), q) →
      (Session.parse view backend request.file request.clangArgs request.options).run.run q = (result, r) →
      Produced host view i request result r

/-- The line that a node of a syntax tree is printed as, with some names for the kinds of nodes. A node without a place
stands in line zero. -/
def ForeignNode.line (names : Int → ForeignText) (file : Path) (n : ForeignNode) : String :=
  ProgramRun.declarationLine file ((n.place.map ForeignPlace.line).getD 0) (names n.kind).decoded n.spelling.decoded

/-- The lines of those of some nodes that stand in the main file. -/
def ForeignNode.lines (names : Int → ForeignText) (file : Path) (nodes : List ForeignNode) : String :=
  String.join ((nodes.filter ForeignNode.inMainFile).map (ForeignNode.line names file))

namespace Usage.Clean

theorem declarations (file : Path) (library : Library) (unit : Nat) (nodes : List ForeignNode) :
    (ProgramRun.declarations file (nodes.map fun n => ⟨library, unit, n⟩)).Clean library.number unit
      (ForeignNode.lines library.kindName file nodes) := by
  induction nodes with
  | nil => exact pure _
  | cons n rest ih =>
    refine (isInMainFile ⟨library, unit, n⟩).bind ?_
    cases main : n.inMainFile with
    | false =>
      have skipped : ForeignNode.lines library.kindName file (n :: rest) =
          ForeignNode.lines library.kindName file rest := by
        simp [ForeignNode.lines, main]
      rw [skipped]
      simpa [main] using ih
    | true =>
      have listed : ForeignNode.lines library.kindName file (n :: rest) =
          n.line library.kindName file ++ ForeignNode.lines library.kindName file rest := by
        simp [ForeignNode.lines, main]
      rw [listed]
      have line : (n.place.map ForeignPlace.decoded).map SourceLocation.line = n.place.map ForeignPlace.line := by
        rw [Option.map_map]
        rfl
      simp only [if_true]
      refine (location ⟨library, unit, n⟩).bind <| (kindName ⟨library, unit, n⟩).bind <|
        (spelling ⟨library, unit, n⟩).bind <| ih.bind ?_
      rw [line]
      exact pure _

theorem listing (file : Path) (u : ParsedUnit) :
    (ProgramRun.listing file u).Clean u.library.number u.unit
      (ForeignNode.lines u.library.kindName file u.rootNode.children) :=
  (root u).bind <| (children ⟨u.library, u.unit, u.rootNode⟩).bind <| declarations file u.library u.unit _

end Usage.Clean

/-- Clean work leaves all of a process but its ledger. -/
theorem Process.use_clean {α : Type} {work : Usage α} {library unit : Nat} {value : α} (p : Process)
    (clean : work.Clean library unit value) :
    ∃ ledger used, p.use work = (value, { p with ledger }) ∧ ledger.toList = p.ledger.toList ++ used ∧
      Tidy library unit p.ledger.toList.length used := by
  obtain ⟨later, entries, run, grown, tidy⟩ := clean p.ledger
  refine ⟨later, entries, ?_, grown, tidy⟩
  simp only [use, run]

/-- The first library that an empty slot is asked for is granted if it is there. -/
theorem Slot.configure_fresh (view : FileView) (fresh : Nat) (dir : Path) :
    (configure {} view fresh dir).result =
      if view.isFile (candidate dir) then .ok ⟨fresh, requested view dir⟩
      else .error (.libraryNotFound (candidate dir)) := by
  cases file : view.isFile (candidate dir) with
  | false => simp [configure, file]
  | true => simp [configure, file, requested]

/-- The program with the one backend that it has decided on, before it parses. -/
structure Process.Ready (p : Process) : Prop where
  backends : p.backends = 1
  openings : p.openings = []
  libraries : p.libraries = []
  ledger : p.ledger = #[]

/-- What comes of opening a library when none is in memory yet. -/
def FileView.opened (view : FileView) (path : Path) : Except String Library := (Process.openLibrary {} view path).1

namespace Process.Ready

variable {p : Process}

theorem openLibrary (ready : p.Ready) (view : FileView) (path : Path) :
    (p.openLibrary view path).1 = view.opened path := by
  obtain ⟨backends, openings, libraries, ledger, log⟩ := p
  obtain ⟨rfl, rfl, rfl, rfl⟩ := ready
  unfold FileView.opened Process.openLibrary
  cases view.library path with
  | error reason => rfl
  | ok found =>
    change (bringIn _ _ _ _).1 = (bringIn _ _ _ _).1
    unfold bringIn
    cases found.firstMissing? <;> rfl

theorem untried (ready : p.Ready) (b : Backend) : p.outcome? b = none := by
  simp [outcome?, ready.openings]

theorem opening (ready : p.Ready) (view : FileView) (b : Backend) : p.opening view b = view.opened b.libraryFile := by
  rw [Process.opening, ready.untried, Option.getD_none, ready.openLibrary]

theorem openingsWith (ready : p.Ready) (view : FileView) (b : Backend) :
    p.openingsWith view b = [⟨b.number, view.opened b.libraryFile⟩] := by
  simp only [Process.openingsWith, ready.untried, ready.openings, ready.openLibrary, List.nil_append]

end Process.Ready

theorem Invocation.configured (i : Invocation) (host : Host) (view : FileView) (dir : Path) :
    ∃ slot p, p.Ready ∧ (Session.configure view {} dir).run (i.searched host) =
      ((if view.isFile (Slot.candidate dir) then .ok ⟨0, requested view dir⟩
        else .error (.libraryNotFound (Slot.candidate dir)), slot), p) := by
  let configured := Slot.configure {} view 0 dir
  refine ⟨configured.slot, { (i.searched host).tell configured.log with backends := 1 }, ⟨rfl, rfl, rfl, rfl⟩, ?_⟩
  rw [← Slot.configure_fresh]
  rfl

/-- The stages by what they find: no toolchain, no library in its directory, or a library to parse with. -/
theorem Produced.stages {host : Host} {view : FileView} {i : Invocation} {request : ParseRequest}
    {result : Except ClangError ParsedUnit} {q : Process} (produced : Produced host view i request result q) :
    (∃ e, (i.search host).result = .error e ∧ result = .error e ∧ q = i.searched host) ∨
    ∃ toolchain p, (i.search host).result = .ok toolchain ∧ p.Ready ∧
      ((view.isFile (Slot.candidate toolchain.libraryDir) = false ∧ q = p ∧
          result = .error (.libraryNotFound (Slot.candidate toolchain.libraryDir))) ∨
        (view.isFile (Slot.candidate toolchain.libraryDir) = true ∧
          (Session.parse view ⟨0, requested view toolchain.libraryDir⟩ request.file request.clangArgs
            request.options).run.run p = (result, q))) := by
  cases produced with
  | unlocated none => exact Or.inl ⟨_, none, rfl, rfl⟩
  | @unconfigured toolchain _ _ _ found refused =>
    obtain ⟨_, p, ready, chosen⟩ := i.configured host view toolchain.libraryDir
    rw [refused] at chosen
    refine Or.inr ⟨toolchain, p, found, ready, ?_⟩
    split at chosen
    · exact nomatch chosen
    · rename_i absent
      cases chosen
      exact Or.inl ⟨Bool.not_eq_true _ ▸ absent, rfl, rfl⟩
  | @tried toolchain _ _ _ _ _ found granted parsed =>
    obtain ⟨_, p, ready, chosen⟩ := i.configured host view toolchain.libraryDir
    rw [granted] at chosen
    refine Or.inr ⟨toolchain, p, found, ready, ?_⟩
    split at chosen
    · rename_i present
      cases chosen
      exact Or.inr ⟨present, parsed⟩
    · exact nomatch chosen

/-- Nothing stands in the way of a parse for which libclang has a unit. -/
theorem Session.parse_succeeds {view : FileView} {backend : Backend} {p : Process} {library : Library}
    {content : ForeignUnit} (request : ParseRequest) (present : view.isFile request.file = true)
    (opened : p.opening view backend = .ok library) (clean : ∀ arg ∈ request.clangArgs, 0 ∉ Bytes.ofText arg)
    (given : library.givesNoIndex = false) (reply : view.reply request.file = ⟨0, some content⟩) :
    ∃ u q, u.diagnostics = content.diagnostics.map ForeignDiagnostic.decoded ∧
      (Session.parse view backend request.file request.clangArgs request.options).run.run p = (.ok u, q) := by
  obtain ⟨q, _, _, _, _, onward⟩ :=
    @parse_present view backend request.file p request.clangArgs request.options present
  have unrefused := refuseNul_none (p := q) (view.nulFree request.file present)
    (List.findSome?_eq_none_iff.mpr fun arg member => nulPosition?_eq_none.mpr (clean arg member))
  obtain ⟨_, _, _, run, _⟩ :=
    request_ok (p := q) (callFor request.file request.clangArgs request.options) given reply
  exact ⟨_, _, rfl, (onward library opened).trans ((Work.bind_run unrefused).trans run)⟩

theorem Work.lift_run {α : Type} (step : StateM Process α) (p : Process) :
    (liftM step : Work α).run.run p = (.ok (step.run p).1, (step.run p).2) :=
  rfl

theorem runProgramOn_accepted {arguments : List Bytes} {i : Invocation} (stream : ErrorStream) (host : Host)
    (view : FileView) (accepted : Invocation.ofArguments arguments = .ok i) :
    runProgramOn stream host view arguments = ProgramRun.perform stream host view i := by
  simp only [runProgramOn, accepted]

namespace ProgramRun

variable {host : Host} {view : FileView} {i : Invocation} {request : ParseRequest} {p q : Process}
  {dir : Path} {slot : Slot}

/-- What is given back when a unit is dropped. A program that ends at once drops nothing. -/
def released (u : ParsedUnit) : List Entry :=
  if u.hasErrors then []
  else [⟨u.library.number, .unitDisposed u.unit⟩, ⟨u.library.number, .indexDisposed u.index⟩]

theorem released_acquires_nothing {u : ParsedUnit} : ∀ e ∈ released u, e.event.acquires = false := by
  unfold released
  split
  · exact nofun
  · simp [Event.acquires]

theorem released_library {u : ParsedUnit} : ∀ e ∈ released u, e.library = u.library.number := by
  unfold released
  split
  · exact nofun
  · simp

theorem showUnit_run (stream : ErrorStream) (verbosity : LogLevel) (file : Path) (u : ParsedUnit) (p : Process) :
    ∃ ledger used, showUnit stream verbosity file u p =
        ⟨if u.hasErrors then 1 else 0, ForeignNode.lines u.library.kindName file u.rootNode.children,
          logText verbosity p ++ shownReport stream u, { p with ledger }⟩ ∧
      ledger.toList = p.ledger.toList ++ (used ++ released u) ∧
      Tidy u.library.number u.unit p.ledger.toList.length used := by
  obtain ⟨listed, used, run, grown, tidy⟩ := p.use_clean (.listing file u)
  unfold showUnit released
  rw [run]
  cases u.hasErrors with
  | true =>
    refine ⟨listed, used, rfl, ?_, tidy⟩
    rw [grown, if_pos rfl, List.append_nil]
  | false =>
    refine ⟨(listed.push ⟨u.library.number, .unitDisposed u.unit⟩).push ⟨u.library.number, .indexDisposed u.index⟩,
      used, rfl, ?_, tidy⟩
    simp [grown]

/-- The library is chosen first, and without one nothing is parsed. -/
theorem parseWith_run (request : ParseRequest) {configured : Except ClangError Backend}
    (chosen : (Session.configure view {} dir).run p = ((configured, slot), q)) :
    (parseWith view dir request).run.run p =
      match configured with
      | .ok backend => (Session.parse view backend request.file request.clangArgs request.options).run.run q
      | .error e => (.error e, q) := by
  have lifted : (liftM (Session.configure view {} dir) : Work _).run.run p = (.ok (configured, slot), q) := by
    rw [Work.lift_run, chosen]
  refine (Work.bind_run lifted).trans ?_
  cases configured <;> rfl

theorem perform_eq (stream : ErrorStream) (host : Host) (view : FileView) (i : Invocation) :
    perform stream host view i = match (i.search host).result with
      | .error e => failed i.logLevel e.message (i.searched host)
      | .ok toolchain =>
        match i.action with
        | .locate json => showToolchain i.logLevel json toolchain (i.searched host)
        | .parse request =>
          match (parseWith view toolchain.libraryDir request).run.run (i.searched host) with
          | (.ok u, p) => showUnit stream i.logLevel request.file u p
          | (.error e, p) => failed i.logLevel e.message p :=
  rfl

/-- A command line that asks to parse is carried out stage by stage, and then what came of it is shown. -/
theorem perform_parse (stream : ErrorStream) (host : Host) (view : FileView) (asked : i.action = .parse request) :
    ∃ result q, Produced host view i request result q ∧ perform stream host view i =
      match result with
      | .ok u => showUnit stream i.logLevel request.file u q
      | .error e => failed i.logLevel e.message q := by
  rw [perform_eq, asked]
  cases found : (i.search host).result with
  | error e => exact ⟨_, _, .unlocated found, rfl⟩
  | ok toolchain =>
    rcases chosen : (Session.configure view {} toolchain.libraryDir).run (i.searched host)
      with ⟨⟨configured, slot⟩, q⟩
    cases configured with
    | error e =>
      refine ⟨_, _, .unconfigured found chosen, ?_⟩
      simp only [parseWith_run request chosen]
    | ok backend =>
      rcases parsed : (Session.parse view backend request.file request.clangArgs request.options).run.run q
        with ⟨result, r⟩
      refine ⟨result, r, .tried found chosen parsed, ?_⟩
      simp only [parseWith_run request chosen, parsed]
      cases result <;> rfl

end ProgramRun

end ClangAccess
