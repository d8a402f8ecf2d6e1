import ClangAccess.Proofs.ParseRun

namespace ClangAccess

/-- What comes of opening the library of a backend. If that has been tried before, what came of it stands. -/
def Process.opening (p : Process) (view : FileView) (b : Backend) : Except String Library :=
  (p.outcome? b).getD (p.openLibrary view b.libraryFile).1

namespace Process

variable (p : Process) (view : FileView)

theorem bringIn_frame (path : Path) (found : SharedLibrary) :
    ∃ libraries, (p.bringIn view path found).2 = { p with libraries } := by
  unfold bringIn
  split
  · exact ⟨_, rfl⟩
  · split
    · exact ⟨p.libraries, rfl⟩
    · exact ⟨_, rfl⟩

theorem openLibrary_frame (path : Path) :
    ∃ libraries, (p.openLibrary view path).2 = { p with libraries } := by
  unfold openLibrary
  split
  · exact ⟨p.libraries, rfl⟩
  · split
    · exact p.bringIn_frame view path _
    · exact ⟨p.libraries, rfl⟩

theorem bringIn_tell (records : List Record) (path : Path) (found : SharedLibrary) :
    ((p.tell records).bringIn view path found).1 = (p.bringIn view path found).1 := by
  have same : (p.tell records).libraries = p.libraries := rfl
  unfold bringIn
  rw [same]
  cases p.libraries.find? fun l => l.file = found.file with
  | some l => rfl
  | none => cases found.firstMissing? <;> rfl

/-- What is told has no bearing on what comes of opening a library. -/
theorem openLibrary_tell (records : List Record) (path : Path) :
    ((p.tell records).openLibrary view path).1 = (p.openLibrary view path).1 := by
  have same : (p.tell records).named? path = p.named? path := rfl
  unfold openLibrary
  rw [same]
  cases p.named? path with
  | some l => rfl
  | none =>
    cases view.library path with
    | ok found => exact p.bringIn_tell view records path found
    | error reason => rfl

theorem opening_tell (records : List Record) (b : Backend) :
    (p.tell records).opening view b = p.opening view b := by
  unfold opening
  rw [p.openLibrary_tell]
  rfl

/-- What has been opened after the library of a backend was called for. One that was tried before is not
opened again. -/
def openingsWith (b : Backend) : List Opening :=
  match p.outcome? b with
  | some _ => p.openings
  | none => p.openings ++ [⟨b.number, (p.openLibrary view b.libraryFile).1⟩]

theorem openingsWith_tell (records : List Record) (b : Backend) :
    (p.tell records).openingsWith view b = p.openingsWith view b := by
  unfold openingsWith
  rw [p.openLibrary_tell]
  rfl

/-- What comes of opening a backend is remembered, and libclang is not used. -/
theorem openBackend_spec {p : Process} (view : FileView) {b : Backend} (untried : p.outcome? b = none) :
    (p.openBackend view b).1 = (p.openLibrary view b.libraryFile).1 ∧
      (p.openBackend view b).2.outcome? b = some (p.openLibrary view b.libraryFile).1 ∧
      (p.openBackend view b).2.ledger = p.ledger ∧
      (p.openBackend view b).2.openings = p.openingsWith view b := by
  obtain ⟨libraries, frame⟩ := p.openLibrary_frame view b.libraryFile
  have added : p.openingsWith view b = p.openings ++ [⟨b.number, (p.openLibrary view b.libraryFile).1⟩] := by
    simp only [openingsWith, untried]
  simp only [outcome?, Option.map_eq_none_iff] at untried
  refine ⟨rfl, ?_, ?_, ?_⟩
  · simp [openBackend, frame, outcome?, List.find?_append, untried]
  · simp [openBackend, frame]
  · simp [openBackend, frame, added]

end Process

/-- The result of opening a backend, for a caller. -/
def Backend.opened (b : Backend) : Except String Library → Except ClangError Library
  | .ok library => .ok library
  | .error reason => .error (.libraryLoad b.libraryFile reason)

namespace Backend

variable {view : FileView} {b : Backend} {p : Process}

theorem opened_run (b : Backend) (outcome : Except String Library) (p : Process) :
    (match outcome with
      | .ok library => return library
      | .error reason => throw (.libraryLoad b.libraryFile reason) : Work Library).run.run p =
        (b.opened outcome, p) := by
  cases outcome <;> rfl

/-- What came of an earlier try is not looked into again. -/
theorem open_tried {outcome : Except String Library} (tried : p.outcome? b = some outcome) :
    (b.open view).run.run p = (b.opened outcome, p) := by
  have got : (get : Work Process).run.run p = (.ok p, p) := rfl
  refine (Work.bind_run got).trans ?_
  rw [tried]
  exact b.opened_run outcome p

theorem open_untried (untried : p.outcome? b = none) :
    ∃ q, (b.open view).run.run p = (b.opened (p.openLibrary view b.libraryFile).1, q) ∧
      q.outcome? b = some (p.openLibrary view b.libraryFile).1 ∧ q.ledger = p.ledger ∧
      q.openings = p.openingsWith view b := by
  have got : (get : Work Process).run.run p = (.ok p, p) := rfl
  have told : (Work.debug s!"opening {b.libraryFile.display}").run.run p = (.ok (), p.tell _) := rfl
  have again : (p.tell [.debug s!"opening {b.libraryFile.display}"]).outcome? b = none := untried
  obtain ⟨outcome, remembered, ledger, openings⟩ := Process.openBackend_spec view again
  rw [p.openLibrary_tell] at outcome remembered
  rw [p.openingsWith_tell] at openings
  refine ⟨_, ?_, remembered, ledger, openings⟩
  refine (Work.bind_run got).trans ?_
  rw [untried]
  refine (Work.bind_run told).trans ?_
  rw [← outcome]
  exact (Work.bind_run rfl).trans (b.opened_run _ _)

theorem open_run (view : FileView) (b : Backend) (p : Process) :
    ∃ q, (b.open view).run.run p = (b.opened (p.opening view b), q) ∧
      q.outcome? b = some (p.opening view b) ∧ q.ledger = p.ledger ∧ q.openings = p.openingsWith view b := by
  unfold Process.opening
  cases tried : p.outcome? b with
  | some outcome =>
    have same : p.openingsWith view b = p.openings := by simp only [Process.openingsWith, tried]
    exact ⟨p, open_tried tried, tried, rfl, same.symm⟩
  | none => exact open_untried tried

end Backend

end ClangAccess
