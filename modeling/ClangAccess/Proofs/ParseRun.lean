import ClangAccess.Proofs.Borrowing

namespace ClangAccess

namespace Work

variable {α β : Type} {p q : Process}

theorem bind_run {work : Work α} {next : α → Work β} {a : α} (run : work.run.run p = (.ok a, q)) :
    (work >>= next).run.run p = (next a).run.run q := by
  rw [ExceptT.run_bind, StateT.run_bind, run]
  rfl

/-- Work that fails is not gone on with. -/
theorem bind_run_error {work : Work α} {next : α → Work β} {e : ClangError}
    (run : work.run.run p = (.error e, q)) : (work >>= next).run.run p = (.error e, q) := by
  rw [ExceptT.run_bind, StateT.run_bind, run]
  rfl

end Work

/-- Some work ends with a result and enters entries of some form. Beside the ledger only the log may change. -/
def Work.Ends {α : Type} (work : Work α) (p : Process) (result : Except ClangError α)
    (entered : List Entry → Prop) : Prop :=
  ∃ ledger log entries, work.run.run p = (result, { p with ledger, log }) ∧
    ledger.toList = p.ledger.toList ++ entries ∧ entered entries

namespace Work.Ends

variable {α β : Type} {p : Process} {entered : List Entry → Prop}

theorem pure (a : α) (none : entered []) : Ends (Pure.pure a) p (.ok a) entered :=
  ⟨p.ledger, p.log, [], rfl, (List.append_nil _).symm, none⟩

theorem throw (e : ClangError) (none : entered []) : Ends (MonadExcept.throw e : Work α) p (.error e) entered :=
  ⟨p.ledger, p.log, [], rfl, (List.append_nil _).symm, none⟩

theorem bind {work : Work α} {next : α → Work β} {a : α} {result : Except ClangError β}
    {first : List Entry → Prop} (run : work.Ends p (.ok a) first)
    (rest : ∀ q : Process, ∀ entries, first entries → q.ledger.toList = p.ledger.toList ++ entries →
      (next a).Ends q result fun more => entered (entries ++ more)) :
    (work >>= next).Ends p result entered := by
  obtain ⟨ledger, log, entries, ran, grown, atFirst⟩ := run
  obtain ⟨later, records, more, reran, regrown, atRest⟩ := rest { p with ledger, log } entries atFirst grown
  refine ⟨later, records, entries ++ more, ?_, ?_, atRest⟩
  · rw [Work.bind_run ran, reran]
  · rw [regrown, grown, List.append_assoc]

theorem bind_error {work : Work α} {next : α → Work β} {e : ClangError}
    (run : work.Ends p (.error e) entered) : (work >>= next).Ends p (.error e) entered := by
  obtain ⟨ledger, log, entries, ran, grown, atEnd⟩ := run
  exact ⟨ledger, log, entries, Work.bind_run_error ran, grown, atEnd⟩

theorem after_debug {text : String} {next : Unit → Work β} {result : Except ClangError β}
    (rest : ∀ q : Process, q.ledger.toList = p.ledger.toList → (next ()).Ends q result entered) :
    (Work.debug text >>= next).Ends p result entered := by
  have silent : (Work.debug text).Ends p (.ok ()) (· = []) :=
    ⟨p.ledger, _, [], rfl, (List.append_nil _).symm, rfl⟩
  refine silent.bind ?_
  rintro q _ rfl same
  exact rest q (by rw [same, List.append_nil])

theorem use {work : Usage α} {a : α} {later : Ledger} {entries : List Entry}
    (run : work.run p.ledger = (a, later)) (grown : later.toList = p.ledger.toList ++ entries)
    (atEnd : entered entries) : (Work.use work).Ends p (.ok a) entered := by
  refine ⟨later, p.log, entries, ?_, grown, atEnd⟩
  change (Except.ok (work.run p.ledger).1, { p with ledger := (work.run p.ledger).2 }) = _
  rw [run]

theorem use_clean {library unit : Nat} {work : Usage α} {a : α} (clean : work.Clean library unit a) :
    (Work.use work).Ends p (.ok a) (Tidy library unit p.ledger.toList.length) := by
  obtain ⟨later, entries, run, grown, tidy⟩ := clean p.ledger
  exact use run grown tidy

end Work.Ends

namespace Session

variable {p : Process}

theorem index_null {library : Library} (file : Path) (null : library.givesNoIndex = true) :
    (index library file).Ends p (.error (failure file "clang_createIndex returned null"))
      (· = [⟨library.number, .indexCreated 0 0 none⟩]) := by
  refine Work.Ends.after_debug fun q same => ?_
  have run : (library.createIndex 0 0).run q.ledger =
      (none, q.ledger.push ⟨library.number, .indexCreated 0 0 none⟩) := by
    change (_, q.ledger.push ⟨library.number, .indexCreated 0 0 (if library.givesNoIndex then _ else _)⟩) = _
    rw [null]
    rfl
  refine (Work.Ends.use run Array.toList_push rfl).bind ?_
  rintro q _ rfl _
  exact .throw _ rfl

theorem index_created {library : Library} (file : Path) (given : library.givesNoIndex = false) :
    (index library file).Ends p (.ok p.ledger.toList.length)
      (· = [⟨library.number, .indexCreated 0 0 (some p.ledger.toList.length)⟩]) := by
  refine Work.Ends.after_debug fun q same => ?_
  have run : (library.createIndex 0 0).run q.ledger =
      (some q.ledger.size, q.ledger.push ⟨library.number, .indexCreated 0 0 (some q.ledger.size)⟩) := by
    change (_, q.ledger.push ⟨library.number, .indexCreated 0 0 (if library.givesNoIndex then _ else _)⟩) = _
    rw [given]
    rfl
  rw [← same]
  refine (Work.Ends.use run Array.toList_push rfl).bind ?_
  rintro q _ rfl _
  exact .pure _ rfl

/-- One request to libclang: what it makes of the file comes back, and a unit gets the next number. -/
theorem parseUnit_run (library : Library) (index : Nat) (call : ParseCall) (reply : ForeignReply) :
    (Work.use (library.parseUnit index call reply)).Ends p
      (.ok (reply.code, reply.unit.map fun content => (p.ledger.toList.length, content)))
      (· = [⟨library.number, .parsed index call (reply.unit.map fun _ => p.ledger.toList.length)⟩]) := by
  refine Work.Ends.use ?_ Array.toList_push rfl
  cases reply with
  | mk code unit => cases unit <;> rfl

/-- Why a request is refused, and the report on the unit that came with the refusal. -/
def refusal (call : ParseCall) (code : Int) (left : List ForeignDiagnostic) : ClangError :=
  .parseFailed call.file s!"libclang returned {replyCodeName code}"
    (report (left.map ForeignDiagnostic.decoded))

variable {view : FileView} {library : Library} {call : ParseCall}

/-- The reply comes back with the index that was made for it; a unit that is handed back has the number after. -/
theorem ask_ends (given : library.givesNoIndex = false) :
    (ask view library call).Ends p
      (.ok (p.ledger.toList.length, (view.reply call.file).code,
        (view.reply call.file).unit.map fun content => (p.ledger.toList.length + 1, content)))
      (· = [⟨library.number, .indexCreated 0 0 (some p.ledger.toList.length)⟩,
        ⟨library.number, .parsed p.ledger.toList.length call
          ((view.reply call.file).unit.map fun _ => p.ledger.toList.length + 1)⟩]) := by
  refine (index_created call.file given).bind ?_
  rintro q _ rfl grown
  refine Work.Ends.after_debug fun r same => ?_
  have next : r.ledger.toList.length = p.ledger.toList.length + 1 := by
    rw [same, grown, List.length_append, List.length_singleton]
  rw [← next]
  refine (parseUnit_run library p.ledger.toList.length call _).bind ?_
  rintro s _ rfl _
  exact Work.Ends.after_debug fun t _ => .pure _ rfl

/-- Where a failed request left no unit, only the index has to go. -/
theorem discard_none (library : Library) (index : Nat) :
    (Work.use (discard library index none)).Ends p (.ok []) (· = [⟨library.number, .indexDisposed index⟩]) :=
  Work.Ends.use rfl Array.toList_push rfl

/-- What a failed request left behind is copied first, and then the unit goes before its index. -/
theorem discard_some (library : Library) (index unit : Nat) (content : ForeignUnit) :
    (Work.use (discard library index (some (unit, content)))).Ends p
      (.ok (content.diagnostics.map ForeignDiagnostic.decoded)) fun entries =>
        ∃ copied, Tidy library.number unit p.ledger.toList.length copied ∧ entries = copied ++
          [⟨library.number, .unitDisposed unit⟩, ⟨library.number, .indexDisposed index⟩] := by
  have clean : (library.takeDiagnostics unit content.diagnostics).Clean library.number unit _ :=
    .takeDiagnostics library content.diagnostics
  obtain ⟨later, copied, run, grown, tidy⟩ := clean p.ledger
  have discarded : (discard library index (some (unit, content))).run p.ledger =
      (content.diagnostics.map ForeignDiagnostic.decoded,
        (later.push ⟨library.number, .unitDisposed unit⟩).push ⟨library.number, .indexDisposed index⟩) := by
    change (library.takeDiagnostics unit content.diagnostics >>= _).run p.ledger = _
    rw [StateT.run_bind, run]
    rfl
  exact Work.Ends.use discarded (by simp [grown]) ⟨copied, tidy, rfl⟩

theorem request_null (view : FileView) (call : ParseCall) (null : library.givesNoIndex = true) :
    (request view library call).Ends p (.error (failure call.file "clang_createIndex returned null"))
      (· = [⟨library.number, .indexCreated 0 0 none⟩]) :=
  (index_null call.file null).bind_error.bind_error

/-- A request for which no unit comes back fails, whatever the code. -/
theorem request_noUnit (call : ParseCall) {code : Int} (given : library.givesNoIndex = false)
    (reply : view.reply call.file = ⟨code, none⟩) :
    (request view library call).Ends p (.error (refusal call code []))
      (· = [⟨library.number, .indexCreated 0 0 (some p.ledger.toList.length)⟩,
        ⟨library.number, .parsed p.ledger.toList.length call none⟩,
        ⟨library.number, .indexDisposed p.ledger.toList.length⟩]) := by
  refine (ask_ends given).bind ?_
  rintro q _ rfl _
  simp only [reply, Option.map_none]
  refine (discard_none library _).bind ?_
  rintro r _ rfl _
  exact .throw _ rfl

/-- A request that fails with a unit tells what the unit says and releases it. -/
theorem request_failed (call : ParseCall) {code : Int} {content : ForeignUnit}
    (given : library.givesNoIndex = false)
    (reply : view.reply call.file = ⟨code, some content⟩) (failed : code ≠ 0) :
    (request view library call).Ends p (.error (refusal call code content.diagnostics)) fun entries =>
      ∃ copied, Tidy library.number (p.ledger.toList.length + 1) (p.ledger.toList.length + 2) copied ∧
        entries = [⟨library.number, .indexCreated 0 0 (some p.ledger.toList.length)⟩,
          ⟨library.number, .parsed p.ledger.toList.length call (some (p.ledger.toList.length + 1))⟩] ++ copied ++
          [⟨library.number, .unitDisposed (p.ledger.toList.length + 1)⟩,
            ⟨library.number, .indexDisposed p.ledger.toList.length⟩] := by
  refine (ask_ends given).bind ?_
  rintro q _ rfl grown
  simp only [reply, Option.map_some] at grown ⊢
  split
  · exact absurd rfl failed
  · refine (discard_some library _ _ content).bind ?_
    rintro r _ ⟨copied, tidy, rfl⟩ _
    rw [grown, List.length_append] at tidy
    exact .throw _ ⟨copied, tidy, by simp⟩

/-- A request that succeeds hands out the unit, with a copy of its diagnostics. -/
theorem request_ok (call : ParseCall) {content : ForeignUnit} (given : library.givesNoIndex = false)
    (reply : view.reply call.file = ⟨0, some content⟩) :
    (request view library call).Ends p
      (.ok
        { library, index := p.ledger.toList.length, unit := p.ledger.toList.length + 1, rootNode := content.root,
          file := call.file, diagnostics := content.diagnostics.map ForeignDiagnostic.decoded }) fun entries =>
      ∃ copied, Tidy library.number (p.ledger.toList.length + 1) (p.ledger.toList.length + 2) copied ∧
        entries = [⟨library.number, .indexCreated 0 0 (some p.ledger.toList.length)⟩,
          ⟨library.number, .parsed p.ledger.toList.length call (some (p.ledger.toList.length + 1))⟩] ++
            copied := by
  refine (ask_ends given).bind ?_
  rintro q _ rfl grown
  simp only [reply, Option.map_some] at grown ⊢
  refine (Work.Ends.use_clean (.takeDiagnostics library content.diagnostics)).bind ?_
  intro r copied tidy _
  rw [grown, List.length_append] at tidy
  split
  · exact .pure _ ⟨copied, tidy, by simp⟩
  · exact Work.Ends.after_debug fun s _ => .pure _ ⟨copied, tidy, by simp⟩

end Session

end ClangAccess
