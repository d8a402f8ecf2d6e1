import ClangAccess.Proofs.ArgumentReading
import ClangAccess.Proofs.OpenedOnce
import ClangAccess.Proofs.ParsePrinted

namespace ClangAccess

/-- The last of some directories that is not empty. -/
inductive LastNonempty : List (Option Path) → Path → Prop
  | mk {before dir after} : dir.isEmpty = false → (∀ later, some later ∈ after → later.isEmpty = true) →
      LastNonempty (before ++ some dir :: after) dir

theorem exists_lastNonempty {dirs : List (Option Path)} (given : ∃ dir, some dir ∈ dirs ∧ dir.isEmpty = false) :
    ∃ dir, LastNonempty dirs dir := by
  induction dirs with
  | nil =>
    obtain ⟨_, member, _⟩ := given
    cases member
  | cons first rest ih =>
    by_cases later : ∃ dir, some dir ∈ rest ∧ dir.isEmpty = false
    · obtain ⟨dir, last⟩ := ih later
      cases last with
      | @mk before _ after named empty => exact ⟨dir, @LastNonempty.mk (first :: before) dir after named empty⟩
    · obtain ⟨dir, member, named⟩ := given
      obtain rfl | member := List.mem_cons.mp member
      · refine ⟨dir, @LastNonempty.mk [] dir rest named fun other within => ?_⟩
        by_contra some
        exact later ⟨other, within, by simpa using some⟩
      · exact absurd ⟨dir, member, named⟩ later

namespace Locator

/-- The probes for some directories from the caller, the first first. -/
def explicits (dirs : List (Option Path)) : List Probe := dirs.filterMap (Option.map .explicit)

theorem mem_explicits {dirs : List (Option Path)} {probe : Probe} :
    probe ∈ explicits dirs ↔ ∃ dir, some dir ∈ dirs ∧ .explicit dir = probe := by
  simp [explicits]

/-- A directory that is given later is looked at earlier. -/
theorem withExplicitDirs_probes (l : Locator) (dirs : List (Option Path)) :
    (dirs.foldl withExplicitDir l).probes = (explicits dirs).reverse ++ l.probes := by
  induction dirs generalizing l with
  | nil => rfl
  | cons first rest ih =>
    rw [List.foldl_cons, ih]
    cases first with
    | none => rfl
    | some dir => simp [explicits, withExplicitDir]

variable {host : Host} {probes before rest : List Probe} {tried : List Attempt}

theorem explicits_calls (dirs : List (Option Path)) : (explicits dirs).reverse.flatMap (Probe.calls host) = [] := by
  rw [List.flatMap_eq_nil_iff]
  intro probe member
  obtain ⟨dir, _, rfl⟩ := mem_explicits.mp (List.mem_reverse.mp member)
  rfl

theorem search_passed (rest : List Probe) (missed : ∀ probe ∈ before, probe.Misses host) :
    let account := (search host.toPlatform (before ++ rest) tried).conduct host
    let later := (search host.toPlatform rest (tried ++ before.map (Probe.attempt host))).conduct host
    account.result = later.result ∧ account.calls = before.flatMap (Probe.calls host) ++ later.calls := by
  induction before generalizing tried with
  | nil => simp
  | cons first before ih =>
    obtain ⟨result, calls⟩ := search_missed (before ++ rest) (missed first (List.mem_cons_self ..))
    obtain ⟨last, later⟩ :=
      @ih (tried ++ [first.attempt host]) fun p member => missed p (List.mem_cons_of_mem _ member)
    rw [List.append_assoc, List.singleton_append, ← List.map_cons] at last later
    refine ⟨result.trans last, calls.trans ?_⟩
    rw [later, List.flatMap_cons, List.append_assoc]

/-- What was tried before leads a failed search's report and is of no account otherwise. -/
theorem search_tried (host : Host) (probes : List Probe) (tried : List Attempt) :
    let account := (search host.toPlatform probes tried).conduct host
    let plain := (search host.toPlatform probes []).conduct host
    account.calls = plain.calls ∧ (∀ toolchain, plain.result = .ok toolchain → account.result = .ok toolchain) ∧
      ∀ e, plain.result = .error e → ∃ attempts, e = .discoveryExhausted attempts ∧
        account.result = .error (.discoveryExhausted (tried ++ attempts)) := by
  obtain ⟨before, probe, after, found, rfl, missed, finds⟩ | missed := finds_or_misses host probes
  · have account := @search_first host probe before after tried found missed finds
    have plain := @search_first host probe before after [] found missed finds
    refine ⟨account.2.trans plain.2.symm, fun _ same => account.1.trans (plain.1.symm.trans same), fun e failed => ?_⟩
    exact nomatch plain.1.symm.trans failed
  · have account := @search_exhausted host tried probes missed
    have plain := @search_exhausted host [] probes missed
    refine ⟨account.2.trans plain.2.symm, ?_, fun e failed => ?_⟩
    · intro toolchain found
      exact nomatch plain.1.symm.trans found
    · exact ⟨_, (Except.error.inj (plain.1.symm.trans failed)).symm, account.1⟩

/-- The search once some directories were given, one after the other. -/
def searchAfter (l : Locator) (dirs : List (Option Path)) (verbosity : LogLevel) (host : Host) :
    Account (Except ClangError Toolchain) :=
  ((dirs.foldl withExplicitDir l).locate verbosity host.toPlatform).conduct host

theorem searchAfter_nonempty (l : Locator) {dirs : List (Option Path)} {dir : Path} (verbosity : LogLevel)
    (host : Host) (last : LastNonempty dirs dir) :
    (l.searchAfter dirs verbosity host).result = .ok (.ofDiscovery .explicit (.directory dir)) ∧
      (l.searchAfter dirs verbosity host).calls =
        if verbosity.admits .debug then toldVariables.map .env else [] := by
  obtain ⟨result, calls⟩ := (dirs.foldl withExplicitDir l).locate_account verbosity host
  cases last with
  | @mk before _ after named empty =>
    -- what was given after the directory is looked at before it, and is empty
    have order : ((before ++ some dir :: after).foldl withExplicitDir l).probes =
        (explicits after).reverse ++ .explicit dir :: ((explicits before).reverse ++ l.probes) := by
      rw [withExplicitDirs_probes]
      simp [explicits]
    have missed : ∀ probe ∈ (explicits after).reverse, probe.Misses host := by
      intro probe member
      obtain ⟨later, within, rfl⟩ := mem_explicits.mp (List.mem_reverse.mp member)
      exact Probe.explicit_misses (empty later within)
    have found := @search_first host _ _ ((explicits before).reverse ++ l.probes) [] _ missed
      (Probe.explicit_finds named)
    rw [order] at result calls
    have unasked : ((explicits after).reverse ++ [Probe.explicit dir]).flatMap (Probe.calls host) = [] := by
      rw [List.flatMap_append, explicits_calls]
      rfl
    refine ⟨result.trans found.1, calls.trans ?_⟩
    rw [found.2, unasked, List.append_nil]

theorem searchAfter_empty (l : Locator) {dirs : List (Option Path)} (verbosity : LogLevel) (host : Host)
    (empty : ∀ dir, some dir ∈ dirs → dir.isEmpty = true) :
    let account := l.searchAfter dirs verbosity host
    let plain := l.searchAfter [] verbosity host
    account.calls = plain.calls ∧ (∀ toolchain, plain.result = .ok toolchain → account.result = .ok toolchain) ∧
      ∀ e, plain.result = .error e → ∃ attempts, e = .discoveryExhausted attempts ∧ account.result =
        .error (.discoveryExhausted
          (List.replicate (dirs.countP Option.isSome) ⟨"explicit directory", "no directory given"⟩ ++ attempts)) := by
  obtain ⟨result, calls⟩ := (dirs.foldl withExplicitDir l).locate_account verbosity host
  obtain ⟨plainResult, plainCalls⟩ := l.locate_account verbosity host
  rw [withExplicitDirs_probes] at result calls
  have missed : ∀ probe ∈ (explicits dirs).reverse, probe.Misses host := by
    intro probe member
    obtain ⟨dir, within, rfl⟩ := mem_explicits.mp (List.mem_reverse.mp member)
    exact Probe.explicit_misses (empty dir within)
  have attempts : (explicits dirs).reverse.map (Probe.attempt host) =
      List.replicate (dirs.countP Option.isSome) ⟨"explicit directory", "no directory given"⟩ := by
    refine List.eq_replicate_iff.mpr ⟨by simp [explicits, List.length_filterMap_eq_countP], ?_⟩
    intro attempt member
    obtain ⟨probe, within, rfl⟩ := List.mem_map.mp member
    obtain ⟨dir, given, rfl⟩ := mem_explicits.mp (List.mem_reverse.mp within)
    exact Probe.explicit_attempt (empty dir given)
  obtain ⟨passed, passedCalls⟩ := @search_passed host _ [] l.probes missed
  rw [List.nil_append, attempts] at passed passedCalls
  rw [explicits_calls, List.nil_append] at passedCalls
  obtain ⟨sameCalls, sameFinding, longerReport⟩ := search_tried host l.probes
    (List.replicate (dirs.countP Option.isSome) ⟨"explicit directory", "no directory given"⟩)
  refine ⟨?_, fun toolchain found => ?_, fun e failed => ?_⟩
  · exact calls.trans ((congrArg _ (passedCalls.trans sameCalls)).trans plainCalls.symm)
  · exact result.trans (passed.trans (sameFinding toolchain (plainResult.symm.trans found)))
  · obtain ⟨attempts, report, longer⟩ := longerReport e (plainResult.symm.trans failed)
    exact ⟨attempts, report, result.trans (passed.trans longer)⟩

end Locator

namespace Reading

/-- A directory that has been read has a name. -/
def Named (r : Reading) : Prop := ∀ dir, r.libclangDir = some dir → dir.isEmpty = false

variable {a : Addressee} {r s : Reading}

theorem named_of_value {value : Bytes} (filled : value ≠ []) :
    ∀ dir, some (⟨value⟩ : Path) = some dir → dir.isEmpty = false := by
  intro dir same
  cases same
  simpa [Path.isEmpty] using filled

theorem named_stable : Stable Named where
  settles := by
    intro r s settles before
    cases settles with
    | idle | file | clangArgs => exact before
    | directory _ _ filled => exact named_of_value filled
  flagged := by
    intro r o s flagged before
    cases flagged with
    | verbose | quiet | once => exact before
  begun before := before
  placed before := before
  attached filled _ := named_of_value filled

theorem trailing_named {argument : Bytes} (taken : r.trailing a argument = .ok s) (before : r.Named) : s.Named := by
  unfold trailing at taken
  split at taken
  · split at taken
    · cases taken
      exact before
    · obtain ⟨t, settled, same⟩ := Except.bind_eq_ok.1 taken
      have after : t.Named := named_stable.settles (settle_eq_ok.1 settled) before
      cases same
      exact after
  · cases taken

theorem trailings_named {more : List Bytes} (taken : more.foldlM (trailing a) r = .ok s) (before : r.Named) :
    s.Named := by
  induction more generalizing r with
  | nil =>
    cases taken
    exact before
  | cons argument more ih =>
    rw [List.foldlM_cons, Except.bind_eq_ok] at taken
    obtain ⟨t, first, later⟩ := taken
    exact ih later (trailing_named first before)

theorem Reads.named {given : List Bytes} {found : Option (Level × List Bytes)} (reads : Reads a r given s found)
    (before : r.Named) : s.Named :=
  named_stable.reads reads (fun _ _ _ => trailings_named) before

theorem finish_named (finished : r.finish a = .ok s) (before : r.Named) : s.Named :=
  named_stable.settles (finish_eq_ok.1 finished).1 before

end Reading

namespace Invocation

variable {arguments : List Bytes} {i : Invocation} {dir : Path}

/-- No command line is understood to name an empty directory. -/
theorem libclangDir_nonempty (accepted : ofArguments arguments = .ok i) (given : i.libclangDir = some dir) :
    dir.isEmpty = false := by
  obtain ⟨r, command, rest, inner, outer, reads, _, read, finished, rfl⟩ := ofArguments_eq_ok.1 accepted
  obtain ⟨t, _, within, ended⟩ := readCommand_eq_ok.1 read
  have nothing : ({} : Reading).Named := nofun
  have outerNamed := Reading.finish_named finished (reads.named nothing)
  have innerNamed := Reading.finish_named ended (within.named nothing)
  simp only [combine] at given
  split at given
  · exact innerNamed dir given
  · exact outerNamed dir given

/-- With a directory given the search is over at once, on every host. -/
theorem search_given (given : i.libclangDir = some dir) (named : dir.isEmpty = false) (host : Host) :
    (i.search host).result = .ok (.ofDiscovery .explicit (.directory dir)) := by
  have last : LastNonempty [some dir] dir := @LastNonempty.mk [] dir [] named nofun
  rw [search, given]
  exact (Locator.searchAfter_nonempty {} i.logLevel host last).1

end Invocation

theorem Tidy.library_of_mem {library unit first : Nat} {entries : List Entry}
    (tidy : Tidy library unit first entries) : ∀ e ∈ entries, e.library = library := by
  intro e member
  rcases tidy.mem member with rfl | ⟨_, _, _, _, rfl | rfl⟩ <;> rfl

namespace ParseOutcome

variable {view : FileView} {backend : Backend} {file : Path} {args : List String} {call : ParseCall}
  {opening : Except String Library} {next : Nat} {result : Except ClangError ParsedUnit} {acquired rest : List Entry}

/-- A parse uses no library but the one that was opened for it. -/
theorem library_of_mem (outcome : ParseOutcome view backend file args call opening next result acquired rest) :
    ∀ e ∈ acquired ++ rest, ∃ library, opening = .ok library ∧ e.library = library.number := by
  cases outcome with
  | absent | unopened | nulArgument => exact nofun
  | noIndex _ opened => simp [opened]
  | noUnit _ opened => simp [opened]
  | failed _ opened _ _ _ _ tidy =>
    intro e member
    refine ⟨_, opened, ?_⟩
    simp only [List.mem_append, List.mem_cons, List.not_mem_nil, or_false] at member
    rcases member with (rfl | rfl) | early | rfl | rfl
    · rfl
    · rfl
    · exact tidy.library_of_mem e early
    · rfl
    · rfl
  | parsed _ opened _ _ _ tidy =>
    intro e member
    refine ⟨_, opened, ?_⟩
    simp only [List.mem_append, List.mem_cons, List.not_mem_nil, or_false] at member
    rcases member with (rfl | rfl) | early
    · rfl
    · rfl
    · exact tidy.library_of_mem e early

theorem unit_library {u : ParsedUnit}
    (outcome : ParseOutcome view backend file args call opening next (.ok u) acquired rest) :
    opening = .ok u.library := by
  cases outcome
  assumption

end ParseOutcome

theorem ProgramRun.perform_locate {i : Invocation} {json : Bool} {toolchain : Toolchain} (stream : ErrorStream)
    (host : Host) (view : FileView) (asked : i.action = .locate json) (found : (i.search host).result = .ok toolchain) :
    perform stream host view i = showToolchain i.logLevel json toolchain (i.searched host) := by
  rw [perform_eq, found, asked]

/-- What is printed of a toolchain depends on nothing else. -/
theorem ProgramRun.showToolchain_printed (verbosity : LogLevel) (json : Bool) (t : Toolchain) (p q : Process) :
    (showToolchain verbosity json t p).stdout = (showToolchain verbosity json t q).stdout ∧
      (showToolchain verbosity json t p).exitCode = (showToolchain verbosity json t q).exitCode := by
  unfold showToolchain
  cases json with
  | false => exact ⟨rfl, rfl⟩
  | true => cases t.json <;> exact ⟨rfl, rfl⟩

/-- All that is opened or used of libclang is the library of one directory. -/
structure Process.BoundTo (p : Process) (view : FileView) (dir : Path) : Prop where
  opened : ∀ o ∈ p.openings, o = ⟨0, view.opened (requested view dir)⟩
  used : ∀ e ∈ p.ledger.toList, ∃ found, view.library (requested view dir) = .ok found ∧ e.library = found.file

theorem Process.Ready.boundTo {p : Process} (ready : p.Ready) (view : FileView) (dir : Path) :
    p.BoundTo view dir where
  opened := by simp [ready.openings]
  used := by simp [ready.ledger]

theorem Session.parse_bound {view : FileView} {dir file : Path} {args : List String} {options : ParseOptions}
    {p q : Process} {result : Except ClangError ParsedUnit} (ready : p.Ready)
    (parsed : (parse view ⟨0, requested view dir⟩ file args options).run.run p = (result, q)) :
    q.BoundTo view dir ∧ ∀ u, result = .ok u → view.opened (requested view dir) = .ok u.library := by
  obtain ⟨_, _, acquired, rest, run, grown, absent, _, outcome⟩ :=
    parse_outcome view ⟨0, requested view dir⟩ file args options p
  cases run.symm.trans parsed
  rw [ready.opening] at outcome
  refine ⟨⟨?_, ?_⟩, ?_⟩
  · cases there : view.isFile file with
    | false =>
      rw [absent there]
      exact (ready.boundTo view dir).opened
    | true =>
      have openings := parse_openings ⟨0, requested view dir⟩ args options p there
      rw [parsed, ready.openingsWith] at openings
      intro o member
      rw [openings] at member
      exact List.mem_singleton.mp member
  · rw [grown, ready.ledger]
    intro e member
    obtain ⟨library, opened, same⟩ := outcome.library_of_mem e (by simpa using member)
    obtain ⟨found, there, rfl⟩ := FileView.opened_file opened
    exact ⟨found, there, same⟩
  · rintro u rfl
    exact outcome.unit_library

/-- A run that is to parse keeps to the library of one directory. Without one there it ends at once, and with one
there its parse is a parse with that library. -/
structure GivenLibrary (dir : Path) (view : FileView) (stream : ErrorStream) (i : Invocation) (request : ParseRequest)
    (run : ProgramRun) : Prop where
  missing : view.isFile (Slot.candidate dir) = false → run.stdout = "" ∧ run.exitCode = 1 ∧
    run.stderr = ProgramRun.logText i.logLevel run.process ++ "Error: " ++
      (ClangError.libraryNotFound (Slot.candidate dir)).message ++ "\n" ∧
    run.process.openings = [] ∧ run.process.ledger = #[]
  there : view.isFile (Slot.candidate dir) = true → ∃ p result q, p.Ready ∧
    (Session.parse view ⟨0, requested view dir⟩ request.file request.clangArgs request.options).run.run p =
      (result, q) ∧
    run = match result with
      | .ok u => ProgramRun.showUnit stream i.logLevel request.file u q
      | .error e => ProgramRun.failed i.logLevel e.message q
  bound : run.process.BoundTo view dir

theorem ProgramRun.showUnit_bound {view : FileView} {dir : Path} {q : Process} {u : ParsedUnit}
    (stream : ErrorStream) (verbosity : LogLevel) (file : Path) (bound : q.BoundTo view dir)
    (opened : view.opened (requested view dir) = .ok u.library) :
    (showUnit stream verbosity file u q).process.BoundTo view dir := by
  obtain ⟨ledger, used, shown, grown, tidy⟩ := showUnit_run stream verbosity file u q
  rw [shown]
  refine ⟨bound.opened, fun e member => ?_⟩
  rw [grown] at member
  obtain earlier | later := List.mem_append.mp member
  · exact bound.used e earlier
  · obtain ⟨found, there, linked⟩ := FileView.opened_file opened
    have same : e.library = u.library.number := by
      obtain listed | dropped := List.mem_append.mp later
      · exact tidy.library_of_mem e listed
      · exact released_library e dropped
    exact ⟨found, there, same.trans (congrArg Library.number linked)⟩

theorem ProgramRun.perform_given {i : Invocation} {request : ParseRequest} {dir : Path} (stream : ErrorStream)
    (host : Host) (view : FileView) (given : i.libclangDir = some dir) (named : dir.isEmpty = false)
    (asked : i.action = .parse request) :
    GivenLibrary dir view stream i request (perform stream host view i) := by
  obtain ⟨result, q, produced, performed⟩ := perform_parse stream host view asked
  rw [performed]
  obtain ⟨e, none, _⟩ | ⟨toolchain, p, found, ready, ⟨absent, rfl, rfl⟩ | ⟨present, parsed⟩⟩ := produced.stages
  · exact nomatch (i.search_given given named host).symm.trans none
  · cases (i.search_given given named host).symm.trans found
    refine ⟨fun _ => ⟨rfl, rfl, rfl, ready.openings, ready.ledger⟩, fun there => ?_, ready.boundTo view dir⟩
    exact nomatch there.symm.trans absent
  · cases (i.search_given given named host).symm.trans found
    obtain ⟨bound, unit⟩ := Session.parse_bound ready parsed
    refine ⟨fun missing => ?_, fun _ => ⟨p, result, q, ready, parsed, rfl⟩, ?_⟩
    · exact nomatch present.symm.trans missing
    · cases result with
      | error e => exact bound
      | ok u => exact showUnit_bound stream i.logLevel request.file bound (unit u rfl)

/-- The directories that were given decide a search: the last that is not empty is the answer and no tool is asked,
and empty ones are only reported. -/
structure DirectoryDecides (dirs : List (Option Path)) (verbosity : LogLevel)
    (plain account : Account (Except ClangError Toolchain)) : Prop where
  answer : (∃ dir, some dir ∈ dirs ∧ dir.isEmpty = false) → ∃ dir toolchain, LastNonempty dirs dir ∧
    account.result = .ok toolchain ∧ toolchain.source = .explicit ∧ toolchain.libraryDir = dir ∧
    toolchain.executable = none ∧ toolchain.version = none
  unasked : (∃ dir, some dir ∈ dirs ∧ dir.isEmpty = false) →
    account.calls = if verbosity.admits .debug then Locator.toldVariables.map .env else []
  asked : (∀ dir, some dir ∈ dirs → dir.isEmpty = true) → account.calls = plain.calls
  passedOver : (∀ dir, some dir ∈ dirs → dir.isEmpty = true) → ∀ toolchain, plain.result = .ok toolchain →
    account.result = .ok toolchain
  reported : (∀ dir, some dir ∈ dirs → dir.isEmpty = true) → ∀ e, plain.result = .error e →
    ∃ attempts, e = .discoveryExhausted attempts ∧ account.result = .error (.discoveryExhausted
      (List.replicate (dirs.countP Option.isSome) ⟨"explicit directory", "no directory given"⟩ ++ attempts))

/-- A directory that is named on the command line is heeded in every environment. -/
structure DirectoryHeeded (arguments : List Bytes) (i : Invocation) (dir : Path) : Prop where
  locate : ∀ json, i.action = .locate json → ∀ stream otherStream host other view otherView,
    (runProgramOn stream host view arguments).stdout = (runProgramOn otherStream other otherView arguments).stdout ∧
      (runProgramOn stream host view arguments).exitCode = (runProgramOn otherStream other otherView arguments).exitCode
  parse : ∀ request, i.action = .parse request → ∀ stream host view,
    GivenLibrary dir view stream i request (runProgramOn stream host view arguments)

/-- Nothing comes before a directory from the caller, be it in a search or in a run of the program. -/
theorem given_directory_decides :
    (∀ (l : Locator) (dirs : List (Option Path)) (verbosity : LogLevel) (host : Host),
      DirectoryDecides dirs verbosity ((l.locate verbosity host.toPlatform).conduct host)
        (((dirs.foldl Locator.withExplicitDir l).locate verbosity host.toPlatform).conduct host)) ∧
    ∀ (arguments : List Bytes) (i : Invocation) (dir : Path), Invocation.ofArguments arguments = .ok i →
      i.libclangDir = some dir → DirectoryHeeded arguments i dir := by
  constructor
  · intro l dirs verbosity host
    constructor
    case answer =>
      intro given
      obtain ⟨dir, last⟩ := exists_lastNonempty given
      exact ⟨dir, _, last, (l.searchAfter_nonempty verbosity host last).1, rfl, rfl, rfl, rfl⟩
    case unasked =>
      intro given
      obtain ⟨dir, last⟩ := exists_lastNonempty given
      exact (l.searchAfter_nonempty verbosity host last).2
    case asked => exact fun empty => (l.searchAfter_empty verbosity host empty).1
    case passedOver => exact fun empty => (l.searchAfter_empty verbosity host empty).2.1
    case reported => exact fun empty => (l.searchAfter_empty verbosity host empty).2.2
  · intro arguments i dir accepted given
    have named := Invocation.libclangDir_nonempty accepted given
    constructor
    case locate =>
      intro json asked stream otherStream host other view otherView
      rw [runProgramOn_accepted stream host view accepted, runProgramOn_accepted otherStream other otherView accepted,
        ProgramRun.perform_locate stream host view asked (i.search_given given named host),
        ProgramRun.perform_locate otherStream other otherView asked (i.search_given given named other)]
      exact ProgramRun.showToolchain_printed _ _ _ _ _
    case parse =>
      intro request asked stream host view
      rw [runProgramOn_accepted stream host view accepted]
      exact ProgramRun.perform_given stream host view given named asked

def locateWords : List Bytes := ["cxxast", "locate", "--libclang-dir", "l"].map Bytes.ofText

def locateInvocation : Invocation := ⟨.info, some (.ofText "l"), .locate false⟩

def severalDirs : List (Option Path) := [some (.ofText "k"), none, some (.ofText "l"), some ⟨[]⟩]

theorem directory_on_two_hosts :
    Invocation.ofArguments locateWords = .ok locateInvocation ∧
      locateInvocation.libclangDir = some (.ofText "l") ∧ locateInvocation.action = .locate false ∧
      (runProgramOn .plain bareHost stockedFiles locateWords).stdout =
        (runProgramOn colourTerminal crowdedHost oneFile locateWords).stdout ∧
      Invocation.ofArguments quietWords = .ok quietInvocation ∧
      quietInvocation.libclangDir = some (.ofText "l") ∧
      quietInvocation.action = .parse { file := .ofText "a" } ∧
      (runProgramOn .plain crowdedHost stockedFiles quietWords).process.BoundTo stockedFiles (.ofText "l") ∧
      (runProgramOn .plain crowdedHost oneFile quietWords).process.openings = [] ∧
      (∃ dir, some dir ∈ severalDirs ∧ dir.isEmpty = false) ∧
      ∃ dir toolchain, LastNonempty severalDirs dir ∧ toolchain.libraryDir = dir ∧
        (Locator.searchAfter {} severalDirs .off crowdedHost).result = .ok toolchain := by
  obtain ⟨searches, runs⟩ := given_directory_decides
  have located : Invocation.ofArguments locateWords = .ok locateInvocation := rfl
  have parsed : Invocation.ofArguments quietWords = .ok quietInvocation := rfl
  have toLocate := runs locateWords locateInvocation (.ofText "l") located rfl
  have toParse := runs quietWords quietInvocation (.ofText "l") parsed rfl
  have nonempty : ∃ dir, some dir ∈ severalDirs ∧ dir.isEmpty = false := ⟨.ofText "l", by decide, by decide⟩
  obtain ⟨dir, toolchain, last, found, _, same, _⟩ := (searches {} severalDirs .off crowdedHost).answer nonempty
  refine ⟨located, rfl, rfl, ?_, parsed, rfl, rfl, ?_, ?_, nonempty, dir, toolchain, last, same, found⟩
  · exact (toLocate.locate false rfl .plain colourTerminal bareHost crowdedHost stockedFiles oneFile).1
  · exact (toParse.parse _ rfl .plain crowdedHost stockedFiles).bound
  · exact ((toParse.parse _ rfl .plain crowdedHost oneFile).missing (by decide)).2.2.2.1

end ClangAccess
