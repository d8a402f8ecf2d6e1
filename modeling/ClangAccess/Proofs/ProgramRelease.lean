import ClangAccess.Proofs.ClangArguments
import ClangAccess.Proofs.ReleaseBalance

namespace ClangAccess

/-- libclang makes a unit with errors of a file and says that it succeeded. -/
def FileView.Faulty (view : FileView) (file : Path) : Prop :=
  ∃ content, view.reply file = ⟨0, some content⟩ ∧ ∃ raw ∈ content.diagnostics, raw.severity = 3 ∨ raw.severity = 4

/-- An index is given back: the unit that came back for it is disposed of once, and after it the index, once. -/
structure GivenBack (entries : List Entry) (library index : Nat) : Prop where
  indexOnce : entries.count ⟨library, .indexDisposed index⟩ = 1
  unitOnce : ∀ call unit, ⟨library, .parsed index call (some unit)⟩ ∈ entries →
    entries.count ⟨library, .unitDisposed unit⟩ = 1 ∧ ∃ before after,
      entries = before ++ ⟨library, .unitDisposed unit⟩ :: after ∧ ⟨library, .indexDisposed index⟩ ∈ after

theorem GivenBack.not_quiet {entries : List Entry} {library index : Nat} (back : GivenBack entries library index) :
    ¬∀ e ∈ entries, e.event.disposes = false := by
  intro quiet
  have disposed : ⟨library, .indexDisposed index⟩ ∈ entries := List.count_pos_iff.mp (by rw [back.indexOnce]; decide)
  exact nomatch quiet _ disposed

theorem count_trail {entries : List Entry} {e : Entry} {n : Nat} (handle : n ∈ e.event.handles) :
    (trail entries n).count e = entries.count e :=
  List.count_filter (decide_eq_true handle)

theorem ReleaseBalance.givenBack {entries : List Entry} {library exclude display index : Nat}
    (balance : ReleaseBalance entries [])
    (created : ⟨library, .indexCreated exclude display (some index)⟩ ∈ entries) : GivenBack entries library index := by
  obtain ⟨_, none, _⟩ | ⟨_, _, _, indexTrail⟩ := balance.index library exclude display index created
  · cases none
  constructor
  case indexOnce =>
    rw [← count_trail (n := index) (by simp [Event.handles]), indexTrail]
    simp
  case unitOnce =>
    intro call unit parsed
    obtain ⟨none, _⟩ | ⟨_, uses, unitTrail⟩ := balance.unit library index call unit parsed
    · cases none
    have once : entries.count ⟨library, .unitDisposed unit⟩ = 1 := by
      rw [← count_trail (n := unit) (by simp [Event.handles]), unitTrail]
      simp [List.count_replicate]
    refine ⟨once, ?_⟩
    have disposed : ⟨library, .unitDisposed unit⟩ ∈ entries := List.count_pos_iff.mp (by omega)
    obtain ⟨before, after, split⟩ := List.append_of_mem disposed
    obtain ⟨other, call', rest, earlier, rfl⟩ := balance.together before after library unit split
    -- the index that follows is the unit's own, for a unit comes back only once
    have same : ⟨library, .parsed other call' (some unit)⟩ ∈ trail entries unit :=
      mem_trail.mpr ⟨split ▸ List.mem_append_left _ earlier, by simp [Event.handles]⟩
    rw [unitTrail] at same
    obtain ⟨rfl, _⟩ : other = index ∧ call' = call := by simpa using same
    exact ⟨before, _, split, List.mem_cons_self ..⟩

/-- How a run that is to parse leaves libclang: either with nothing left to give back, or, if the unit has errors, at
once and with nothing given back. -/
inductive Leaves (view : FileView) (file : Path) (run : ProgramRun) : Prop
  | settled : Accounted run.process.ledger.toList [] →
      (∀ library exclude display index,
        ⟨library, .indexCreated exclude display (some index)⟩ ∈ run.process.ledger.toList → ¬view.Faulty file) →
      Leaves view file run
  | abandoned : view.Faulty file → run.exitCode = 1 → (∀ e ∈ run.process.ledger.toList, e.event.disposes = false) →
      Leaves view file run

theorem Tidy.disposes_nothing {library unit first : Nat} {entries : List Entry}
    (tidy : Tidy library unit first entries) : ∀ e ∈ entries, e.event.disposes = false := by
  intro e member
  rcases tidy.mem member with rfl | ⟨_, _, _, _, rfl | rfl⟩ <;> rfl

theorem ParsedUnit.hasErrors_iff_faulty {view : FileView} {file : Path} {u : ParsedUnit} {content : ForeignUnit}
    (reply : view.reply file = ⟨0, some content⟩)
    (diagnostics : u.diagnostics = content.diagnostics.map ForeignDiagnostic.decoded) :
    u.hasErrors = true ↔ view.Faulty file := by
  have taken : List.Forall₂ DiagnosticTaken content.diagnostics u.diagnostics := by
    rw [diagnostics]
    exact ForeignDiagnostic.map_decoded_taken content.diagnostics
  refine (anyError_iff taken).trans ⟨fun faulty => ⟨content, reply, faulty⟩, ?_⟩
  rintro ⟨other, same, faulty⟩
  cases same.symm.trans reply
  exact faulty

theorem ParseOutcome.unfaulty_of_error {view : FileView} {backend : Backend} {file : Path} {args : List String}
    {call : ParseCall} {opening : Except String Library} {next library exclude display index : Nat} {e : ClangError}
    {acquired rest : List Entry}
    (outcome : ParseOutcome view backend file args call opening next (.error e) acquired rest)
    (created : ⟨library, .indexCreated exclude display (some index)⟩ ∈ acquired ++ rest) : ¬view.Faulty file := by
  rintro ⟨content, reply, _⟩
  cases outcome with
  | absent | unopened | nulArgument => exact nomatch created
  | noIndex => simp at created
  | noUnit _ _ _ _ silent => exact nomatch silent.symm.trans reply
  | failed _ _ _ _ refused code =>
    cases refused.symm.trans reply
    exact code rfl

namespace ProgramRun

variable {view : FileView} {i : Invocation} {request : ParseRequest}

theorem showUnit_leaves {u : ParsedUnit} {q : Process} {content : ForeignUnit} (stream : ErrorStream)
    (verbosity : LogLevel)
    (reply : view.reply request.file = ⟨0, some content⟩)
    (diagnostics : u.diagnostics = content.diagnostics.map ForeignDiagnostic.decoded)
    (books : Accounted q.ledger.toList [u.holding]) (quiet : ∀ e ∈ q.ledger.toList, e.event.disposes = false) :
    Leaves view request.file (showUnit stream verbosity request.file u q) := by
  have faulty := ParsedUnit.hasErrors_iff_faulty reply diagnostics
  obtain ⟨ledger, used, shown, grown, tidy⟩ := showUnit_run stream verbosity request.file u q
  rw [← List.append_assoc] at grown
  have whole : Accounted (q.ledger.toList ++ used) [u.holding] := books.tidy (List.mem_cons_self ..) tidy
  rw [shown]
  cases errors : u.hasErrors with
  | true =>
    rw [released, if_pos errors, List.append_nil] at grown
    refine .abandoned (faulty.mp errors) rfl fun e member => ?_
    rw [grown] at member
    rcases List.mem_append.mp member with early | late
    · exact quiet e early
    · exact tidy.disposes_nothing e late
  | false =>
    rw [released, if_neg (by simp [errors])] at grown
    refine .settled ?_ fun _ _ _ _ _ => (Bool.eq_false_iff.mp errors) ∘ faulty.mpr
    rw [grown]
    exact whole.released (List.mem_cons_self ..) fun h => by simp

theorem perform_leaves (stream : ErrorStream) (host : Host) (view : FileView) (asked : i.action = .parse request) :
    Leaves view request.file (perform stream host view i) := by
  obtain ⟨result, q, produced, performed⟩ := perform_parse stream host view asked
  rw [performed]
  obtain ⟨e, none, rfl, rfl⟩ | ⟨toolchain, p, found, ready, ⟨absent, rfl, rfl⟩ | ⟨present, parsed⟩⟩ := produced.stages
  · exact .settled .start nofun
  · have nothing : q.ledger.toList = [] := congrArg Array.toList ready.ledger
    refine .settled (?_ : Accounted q.ledger.toList []) fun _ _ _ _ created => ?_
    · rw [nothing]
      exact .start
    · exact nomatch nothing ▸ created
  · obtain ⟨result', q', acquired, rest, run, grown, _, _, outcome⟩ := Session.parse_outcome view
      ⟨0, requested view toolchain.libraryDir⟩ request.file request.clangArgs request.options p
    cases run.symm.trans parsed
    rw [ready.ledger] at grown outcome
    have books := outcome.accounted .start
    rw [← grown] at books
    cases result with
    | error e =>
      have sound : ∀ library exclude display index,
          ⟨library, .indexCreated exclude display (some index)⟩ ∈ q.ledger.toList → ¬view.Faulty request.file := by
        rw [grown]
        exact fun _ _ _ _ created => outcome.unfaulty_of_error created
      exact .settled books sound
    | ok u =>
      cases outcome with
      | parsed _ _ _ _ reply tidy =>
        refine showUnit_leaves stream i.logLevel reply rfl books fun e member => ?_
        simp only [grown, List.nil_append, List.mem_append, List.mem_cons, List.not_mem_nil, or_false] at member
        rcases member with (rfl | rfl) | copied
        · rfl
        · rfl
        · exact tidy.disposes_nothing e copied

/-- A run for which the way to libclang is clear has an index created. -/
theorem perform_creates_index {host : Host} (stream : ErrorStream) (asked : i.action = .parse request)
    (reaches : i.Reaches host view request.file) (clean : ∀ arg ∈ request.clangArgs, 0 ∉ Bytes.ofText arg) :
    ∃ library, ⟨library, .indexCreated 0 0 (some 0)⟩ ∈ (perform stream host view i).process.ledger.toList := by
  obtain ⟨result, q, produced, performed⟩ := perform_parse stream host view asked
  obtain ⟨toolchain, library, located, candidate, there, opens, gives⟩ := reaches
  have created : ⟨library.number, .indexCreated 0 0 (some 0)⟩ ∈ q.ledger.toList := by
    obtain ⟨e, none, _⟩ | ⟨_, p, found, ready, ⟨absent, _⟩ | ⟨_, parsed⟩⟩ := produced.stages
    · exact nomatch located.symm.trans none
    · cases located.symm.trans found
      exact nomatch candidate.symm.trans absent
    · cases located.symm.trans found
      obtain ⟨_, _, acquired, rest, run, grown, _, _, outcome⟩ := Session.parse_outcome view
        ⟨0, requested view toolchain.libraryDir⟩ request.file request.clangArgs request.options p
      cases run.symm.trans parsed
      rw [ready.opening, ready.ledger] at outcome
      rw [grown]
      cases outcome with
      | absent gone => exact nomatch there.symm.trans gone
      | unopened _ failed => exact nomatch opens.symm.trans failed
      | nulArgument _ _ nul =>
        obtain ⟨arg, member, zero⟩ := nul.exists_nul
        exact absurd zero (clean arg member)
      | noIndex _ opened _ null =>
        cases opens.symm.trans opened
        exact nomatch gives.symm.trans null
      | noUnit _ opened | failed _ opened | parsed _ opened =>
        cases opens.symm.trans opened
        exact List.mem_append_right _ (List.mem_append_left _ (List.mem_cons_self ..))
  rw [performed]
  cases result with
  | error e => exact ⟨library.number, created⟩
  | ok u =>
    obtain ⟨ledger, used, shown, grown, _⟩ := showUnit_run stream i.logLevel request.file u q
    refine ⟨library.number, (?_ : _ ∈ (showUnit stream i.logLevel request.file u q).process.ledger.toList)⟩
    rw [shown]
    exact grown ▸ List.mem_append_left _ created

end ProgramRun

/-- A run of the program that has an index created gives it back, and the unit before it, unless the unit has errors.
Then it ends at once and gives nothing back. -/
theorem run_gives_back_unless_faulty (stream : ErrorStream) (host : Host) (view : FileView) (arguments : List Bytes)
    (i : Invocation) (request : ParseRequest) (accepted : Invocation.ofArguments arguments = .ok i)
    (asked : i.action = .parse request) (library exclude display index : Nat)
    (created : ⟨library, .indexCreated exclude display (some index)⟩ ∈
      (runProgramOn stream host view arguments).process.ledger.toList) :
    (GivenBack (runProgramOn stream host view arguments).process.ledger.toList library index ↔
        ¬view.Faulty request.file) ∧
      (view.Faulty request.file → (runProgramOn stream host view arguments).exitCode = 1 ∧
        ∀ e ∈ (runProgramOn stream host view arguments).process.ledger.toList, e.event.disposes = false) := by
  rw [runProgramOn_accepted stream host view accepted] at created ⊢
  cases ProgramRun.perform_leaves stream host view asked with
  | settled books sound =>
    have sound := sound library exclude display index created
    exact ⟨iff_of_true (books.balance.givenBack created) sound, fun faulty => absurd faulty sound⟩
  | abandoned faulty code quiet =>
    exact ⟨iff_of_false (fun back => back.not_quiet quiet) (not_not_intro faulty), fun _ => ⟨code, quiet⟩⟩

/-- The same files, with a unit that nothing is wrong with. -/
def soundFiles : FileView := { stockedFiles with reply _ := ⟨0, some ⟨[], roughUnit.root⟩⟩ }

theorem sound_unit_given_back :
    Invocation.ofArguments quietWords = .ok quietInvocation ∧
      quietInvocation.action = .parse { file := .ofText "a" } ∧
      ∃ library, ⟨library, .indexCreated 0 0 (some 0)⟩ ∈
          (runProgramOn .plain bareHost soundFiles quietWords).process.ledger.toList ∧
        GivenBack (runProgramOn .plain bareHost soundFiles quietWords).process.ledger.toList library 0 := by
  have accepted : Invocation.ofArguments quietWords = .ok quietInvocation := rfl
  have asked : quietInvocation.action = .parse { file := .ofText "a" } := rfl
  have reaches : quietInvocation.Reaches bareHost soundFiles (.ofText "a") := quietInvocation_reaches
  obtain ⟨library, created⟩ := ProgramRun.perform_creates_index .plain asked reaches nofun
  rw [← runProgramOn_accepted .plain bareHost soundFiles accepted] at created
  have sound : ¬soundFiles.Faulty (.ofText "a") := by
    rintro ⟨content, reply, raw, member, _⟩
    cases reply
    cases member
  have back := run_gives_back_unless_faulty .plain bareHost soundFiles quietWords quietInvocation
    { file := .ofText "a" } accepted asked library 0 0 0 created
  exact ⟨accepted, asked, library, created, back.1.mpr sound⟩

/-- A unit with a fatal diagnostic is kept, and so is its index. -/
theorem faulty_unit_kept :
    Invocation.ofArguments quietWords = .ok quietInvocation ∧
      quietInvocation.action = .parse { file := .ofText "a" } ∧
      ∃ library, ⟨library, .indexCreated 0 0 (some 0)⟩ ∈
          (runProgramOn .plain bareHost stockedFiles quietWords).process.ledger.toList ∧
        ¬GivenBack (runProgramOn .plain bareHost stockedFiles quietWords).process.ledger.toList library 0 := by
  have accepted : Invocation.ofArguments quietWords = .ok quietInvocation := rfl
  have asked : quietInvocation.action = .parse { file := .ofText "a" } := rfl
  obtain ⟨library, created⟩ := ProgramRun.perform_creates_index .plain asked quietInvocation_reaches nofun
  have faulty : stockedFiles.Faulty (.ofText "a") :=
    ⟨roughUnit, rfl, _, List.mem_cons_of_mem _ (List.mem_cons_self ..), Or.inr rfl⟩
  refine ⟨accepted, asked, library, ?_⟩
  rw [runProgramOn_accepted .plain bareHost stockedFiles accepted]
  refine ⟨created, fun back => ?_⟩
  cases ProgramRun.perform_leaves .plain bareHost stockedFiles asked with
  | settled _ sound => exact sound library 0 0 0 created faulty
  | abandoned _ _ quiet => exact back.not_quiet quiet

end ClangAccess
