import ClangAccess.Proofs.CanonicalPath
import ClangAccess.Session

namespace ClangAccess

/-- A request to a slot. Whatever went on before it, it finds the process and the files as they are then. -/
inductive SlotCall where
  | configure (process : Process) (view : FileView) (dir : Path)
  | current

inductive SlotAnswer where
  | configured (result : Except ClangError Backend)
  | current (active : Option Backend)

/-- A request and its answer, with the slot before and after. -/
structure SlotTurn where
  before : Slot
  call : SlotCall
  answer : SlotAnswer
  after : Slot

/-- A turn lets a caller have a backend. -/
def SlotTurn.Gives (turn : SlotTurn) (b : Backend) : Prop :=
  turn.answer = .configured (.ok b) ∨ turn.answer = .current (some b)

/-- The library that a directory stands for, by its name without links if it has one. -/
def requested (view : FileView) (dir : Path) : Path :=
  (view.canonical? (Slot.candidate dir)).getD (Slot.candidate dir)

namespace Slot

def turn (slot : Slot) : SlotCall → SlotTurn
  | .configure process view dir =>
    let ((result, after), _) := (Session.configure view slot dir).run process
    ⟨slot, .configure process view dir, .configured result, after⟩
  | .current => ⟨slot, .current, .current slot.active, slot⟩

/-- The slot after some requests. -/
def afterAll (slot : Slot) (calls : List SlotCall) : Slot :=
  calls.foldl (fun slot call => (slot.turn call).after) slot

/-- The turns that some requests take one after the other. -/
def turns (slot : Slot) : List SlotCall → List SlotTurn
  | [] => []
  | call :: rest => slot.turn call :: (slot.turn call).after.turns rest

end Slot

/-- All that can happen in a turn. -/
inductive SlotStep : SlotTurn → Prop
  | current {slot} : SlotStep ⟨slot, .current, .current slot.active, slot⟩
  | missing {slot process view dir} : view.isFile (Slot.candidate dir) = false →
      SlotStep ⟨slot, .configure process view dir,
        .configured (.error (.libraryNotFound (Slot.candidate dir))), slot⟩
  | first {backend process view dir} : view.isFile (Slot.candidate dir) = true →
      backend.libraryFile = requested view dir →
      SlotStep ⟨⟨none⟩, .configure process view dir, .configured (.ok backend), ⟨some backend⟩⟩
  | again {active process view dir} : view.isFile (Slot.candidate dir) = true →
      active.libraryFile.Same (requested view dir) →
      SlotStep ⟨⟨some active⟩, .configure process view dir, .configured (.ok active), ⟨some active⟩⟩
  | conflict {active process view dir} : view.isFile (Slot.candidate dir) = true →
      ¬active.libraryFile.Same (requested view dir) →
      SlotStep ⟨⟨some active⟩, .configure process view dir,
        .configured (.error (.backendConflict active.libraryFile (requested view dir))), ⟨some active⟩⟩

theorem Slot.turn_step (slot : Slot) (call : SlotCall) : SlotStep (slot.turn call) := by
  cases call with
  | current => exact .current
  | configure process view dir =>
    have ran : (slot.turn (.configure process view dir)) = ⟨slot, .configure process view dir,
        .configured (slot.configure view process.backends dir).result,
        (slot.configure view process.backends dir).slot⟩ := rfl
    rw [ran]
    cases file : view.isFile (Slot.candidate dir) with
    | false =>
      simp only [Slot.configure, file]
      exact .missing file
    | true =>
      obtain ⟨_ | active⟩ := slot
      · simp only [Slot.configure, file, if_true]
        exact .first file rfl
      · by_cases same : active.libraryFile.Same (requested view dir)
        · have granted := same
          rw [requested] at granted
          simp only [Slot.configure, file, if_true, granted]
          exact .again file same
        · have refused := same
          rw [requested] at refused
          simp only [Slot.configure, file, if_true, refused, if_false]
          exact .conflict file same

/-- A backend that a turn gives is the active one after it. -/
theorem SlotStep.active_of_gives {turn : SlotTurn} {b : Backend} (step : SlotStep turn) (gives : turn.Gives b) :
    turn.after.active = some b := by
  cases step with
  | current =>
    rcases gives with strange | given
    · exact nomatch strange
    · exact SlotAnswer.current.inj given
  | missing | conflict => rcases gives with strange | strange <;> exact nomatch strange
  | first | again =>
    rcases gives with given | strange
    · rw [Except.ok.inj (SlotAnswer.configured.inj given)]
    · exact nomatch strange

/-- An active backend stays. -/
theorem SlotStep.active_stays {turn : SlotTurn} {b : Backend} (step : SlotStep turn)
    (filled : turn.before.active = some b) : turn.after.active = some b := by
  cases step with
  | first => exact nomatch filled
  | _ => exact filled

theorem SlotStep.active_none {turn : SlotTurn} (step : SlotStep turn) (empty : turn.before.active = none) :
    turn.after.active = none ↔ ∀ b, turn.answer ≠ .configured (.ok b) := by
  cases step with
  | current | missing => simpa using empty
  | first => simp
  | again | conflict => exact nomatch empty

theorem SlotStep.ok_iff {turn : SlotTurn} {process : Process} {view : FileView} {dir : Path}
    (step : SlotStep turn) (called : turn.call = .configure process view dir) :
    (∃ b, turn.answer = .configured (.ok b)) ↔ view.isFile (Slot.candidate dir) = true ∧
      ∀ active, turn.before.active = some active → active.libraryFile.Same (requested view dir) := by
  cases step with
  | current => exact nomatch called
  | missing absent => cases called; simp [absent]
  | first file _ => cases called; simp [file]
  | again file same => cases called; simp [file, same]
  | conflict file different => cases called; simp [file, different]

theorem SlotStep.ok_file {turn : SlotTurn} {process : Process} {view : FileView} {dir : Path} {b : Backend}
    (step : SlotStep turn) (called : turn.call = .configure process view dir)
    (ok : turn.answer = .configured (.ok b)) : b.libraryFile.Same (requested view dir) ∧
      (turn.before.active = none → b.libraryFile = requested view dir) := by
  cases step with
  | current | missing | conflict => exact nomatch ok
  | first _ file =>
    cases called
    cases ok
    exact ⟨file ▸ rfl, fun _ => file⟩
  | again _ same =>
    cases called
    cases ok
    exact ⟨same, nofun⟩

theorem SlotStep.refused {turn : SlotTurn} {process : Process} {view : FileView} {dir : Path}
    (step : SlotStep turn) (called : turn.call = .configure process view dir)
    (refused : ∀ b, turn.answer ≠ .configured (.ok b)) : turn.after = turn.before ∧
      ((view.isFile (Slot.candidate dir) = false ∧
          turn.answer = .configured (.error (.libraryNotFound (Slot.candidate dir)))) ∨
        (view.isFile (Slot.candidate dir) = true ∧ ∃ active, turn.before.active = some active ∧
          ¬active.libraryFile.Same (requested view dir) ∧
          turn.answer = .configured (.error (.backendConflict active.libraryFile (requested view dir))))) := by
  cases step with
  | current => exact nomatch called
  | first | again => exact absurd rfl (refused _)
  | missing absent =>
    cases called
    exact ⟨rfl, Or.inl ⟨absent, rfl⟩⟩
  | conflict file different =>
    cases called
    exact ⟨rfl, Or.inr ⟨file, _, rfl, different, rfl⟩⟩

theorem SlotStep.current_answer {turn : SlotTurn} (step : SlotStep turn) (called : turn.call = .current) :
    turn.answer = .current turn.before.active ∧ turn.after = turn.before := by
  cases step with
  | current => exact ⟨rfl, rfl⟩
  | _ => exact nomatch called

namespace Slot

variable {slot : Slot}

theorem turn_before (slot : Slot) (call : SlotCall) : (slot.turn call).before = slot := by
  cases call <;> rfl

theorem step_of_mem {calls : List SlotCall} {turn : SlotTurn} (member : turn ∈ slot.turns calls) :
    SlotStep turn := by
  induction calls generalizing slot with
  | nil => simp [turns] at member
  | cons call rest ih =>
    rcases List.mem_cons.mp member with rfl | later
    · exact slot.turn_step call
    · exact ih later

/-- A turn among others stands between the requests before it and those after it. -/
theorem turns_split {calls : List SlotCall} {earlier later : List SlotTurn} {turn : SlotTurn}
    (split : slot.turns calls = earlier ++ turn :: later) :
    ∃ before after, earlier = slot.turns before ∧ turn.before = slot.afterAll before ∧
      later = turn.after.turns after := by
  induction earlier generalizing slot calls with
  | nil =>
    cases calls with
    | nil => exact nomatch split
    | cons call rest =>
      obtain ⟨rfl, rfl⟩ := List.cons.inj split
      exact ⟨[], rest, rfl, slot.turn_before call, rfl⟩
  | cons first earlier ih =>
    cases calls with
    | nil => exact nomatch split
    | cons call rest =>
      obtain ⟨rfl, tail⟩ := List.cons.inj split
      obtain ⟨before, after, rfl, start, rfl⟩ := ih tail
      exact ⟨call :: before, after, rfl, start, rfl⟩

theorem afterAll_filled {b : Backend} (calls : List SlotCall) (filled : slot.active = some b) :
    (slot.afterAll calls).active = some b := by
  induction calls generalizing slot with
  | nil => exact filled
  | cons call rest ih => exact ih ((slot.turn_step call).active_stays (by rwa [turn_before]))

/-- Through all later turns an active backend stays. -/
theorem filled_of_mem {b : Backend} {calls : List SlotCall} (filled : slot.active = some b) {turn : SlotTurn}
    (member : turn ∈ slot.turns calls) : turn.before.active = some b ∧ turn.after.active = some b := by
  obtain ⟨earlier, later, split⟩ := List.append_of_mem member
  obtain ⟨before, _, _, start, _⟩ := turns_split split
  have before : turn.before.active = some b := by
    rw [start]
    exact afterAll_filled before filled
  exact ⟨before, (step_of_mem member).active_stays before⟩

/-- Whatever backend is given at any time, it is the one that is active in the end. -/
theorem active_of_gives {b : Backend} {calls : List SlotCall} {turn : SlotTurn}
    (member : turn ∈ slot.turns calls) (gives : turn.Gives b) : (slot.afterAll calls).active = some b := by
  induction calls generalizing slot with
  | nil => simp [turns] at member
  | cons call rest ih =>
    rcases List.mem_cons.mp member with rfl | later
    · exact afterAll_filled rest ((slot.turn_step call).active_of_gives gives)
    · exact ih later

theorem afterAll_empty (calls : List SlotCall) (empty : slot.active = none) :
    (slot.afterAll calls).active = none ↔ ∀ turn ∈ slot.turns calls, ∀ b, turn.answer ≠ .configured (.ok b) := by
  induction calls generalizing slot with
  | nil => simpa [afterAll, turns] using empty
  | cons call rest ih =>
    have step := slot.turn_step call
    have here := step.active_none (by rwa [turn_before])
    change ((slot.turn call).after.afterAll rest).active = none ↔ _
    simp only [turns, List.forall_mem_cons]
    cases next : (slot.turn call).after.active with
    | none =>
      rw [ih next]
      exact (and_iff_right (here.mp next)).symm
    | some b =>
      rw [afterAll_filled rest next]
      simp only [reduceCtorEq, false_iff, not_and]
      intro refused
      rw [here.mpr refused] at next
      exact nomatch next

end Slot

/-- The history of a slot that is filled once. -/
structure ConfiguredOnce (turns : List SlotTurn) : Prop where
  okExactly : ∀ turn ∈ turns, ∀ process view dir, turn.call = .configure process view dir →
    ((∃ b, turn.answer = .configured (.ok b)) ↔ view.isFile (Slot.candidate dir) = true ∧
      ∀ active, turn.before.active = some active → active.libraryFile.Same (requested view dir))
  /-- For paths that are spelled out, as canonical ones are, only the very same path will do. -/
  okSpelledOut : ∀ turn ∈ turns, ∀ process view dir active, turn.call = .configure process view dir →
    turn.before.active = some active → active.libraryFile.SpelledOut → (requested view dir).SpelledOut →
    ((∃ b, turn.answer = .configured (.ok b)) ↔
      view.isFile (Slot.candidate dir) = true ∧ active.libraryFile = requested view dir)
  /-- What is had is what was asked for, and the first time it goes by just that name. -/
  asked : ∀ turn ∈ turns, ∀ process view dir b, turn.call = .configure process view dir →
    turn.answer = .configured (.ok b) → b.libraryFile.Same (requested view dir) ∧
      (turn.before.active = none → b.libraryFile = requested view dir)
  /-- The first success settles the matter. -/
  settled : ∀ earlier turn later b, turns = earlier ++ turn :: later → turn.answer = .configured (.ok b) →
    turn.after.active = some b ∧ ∀ t ∈ later, t.before.active = some b ∧ t.after.active = some b
  /-- All backends that are had are the same. -/
  same : ∀ turn ∈ turns, ∀ other ∈ turns, ∀ b c, turn.Gives b → other.Gives c →
    b.sameAs c = true ∧ b.libraryFile = c.libraryFile
  /-- It does not matter by which of its names a library is asked for again. -/
  interchangeable : ∀ earlier turn later b, turns = earlier ++ turn :: later →
    turn.answer = .configured (.ok b) → ∀ t ∈ later, ∀ process view dir, t.call = .configure process view dir →
      view.isFile (Slot.candidate dir) = true → b.libraryFile.Same (requested view dir) →
      t.answer = .configured (.ok b)
  /-- Whatever is not granted is refused for a reason, and the slot stays as it was. -/
  refused : ∀ turn ∈ turns, ∀ process view dir, turn.call = .configure process view dir →
    (∀ b, turn.answer ≠ .configured (.ok b)) → turn.after = turn.before ∧
      ((view.isFile (Slot.candidate dir) = false ∧
          turn.answer = .configured (.error (.libraryNotFound (Slot.candidate dir)))) ∨
        (view.isFile (Slot.candidate dir) = true ∧ ∃ active, turn.before.active = some active ∧
          ¬active.libraryFile.Same (requested view dir) ∧
          turn.answer = .configured (.error (.backendConflict active.libraryFile (requested view dir)))))
  current : ∀ turn ∈ turns, turn.call = .current →
    turn.answer = .current turn.before.active ∧ turn.after = turn.before
  noneExactly : ∀ earlier turn later, turns = earlier ++ turn :: later →
    (turn.before.active = none ↔ ∀ t ∈ earlier, ∀ b, t.answer ≠ .configured (.ok b))

/-- A slot is filled at most once, whatever is asked of it and whatever becomes of the files meanwhile. -/
theorem slot_configured_once (calls : List SlotCall) : ConfiguredOnce (Slot.turns {} calls) where
  okExactly turn member _ _ _ called := (Slot.step_of_mem member).ok_iff called
  okSpelledOut turn member _ _ _ _ called filled spelled other := by
    have exactly := (Slot.step_of_mem member).ok_iff called
    simpa only [filled, Option.some.injEq, forall_eq', spelled.same_iff other] using exactly
  asked turn member _ _ _ _ called ok := (Slot.step_of_mem member).ok_file called ok
  settled earlier turn later b split ok := by
    have member : turn ∈ Slot.turns {} calls := by simp [split]
    have filled := (Slot.step_of_mem member).active_of_gives (Or.inl ok)
    obtain ⟨before, after, _, _, rfl⟩ := Slot.turns_split split
    exact ⟨filled, fun t => Slot.filled_of_mem filled⟩
  same turn member other also b c gives givesToo := by
    have one := Slot.active_of_gives member gives
    have two := Slot.active_of_gives also givesToo
    obtain rfl := Option.some.inj (one.symm.trans two)
    exact ⟨by simp [Backend.sameAs], rfl⟩
  interchangeable earlier turn later b split ok t after process view dir called file named := by
    have member : turn ∈ Slot.turns {} calls := by simp [split]
    have also : t ∈ Slot.turns {} calls := by simp [split, after]
    have step := Slot.step_of_mem also
    have filled := (Slot.step_of_mem member).active_of_gives (Or.inl ok)
    obtain ⟨_, rest, _, _, rfl⟩ := Slot.turns_split split
    obtain ⟨before, later⟩ := Slot.filled_of_mem filled after
    obtain ⟨c, granted⟩ := (step.ok_iff called).mpr ⟨file, fun active atTurn => by
      rwa [Option.some.inj (atTurn.symm.trans before)]⟩
    rw [granted, Option.some.inj ((step.active_of_gives (Or.inl granted)).symm.trans later)]
  refused turn member _ _ _ called refused := (Slot.step_of_mem member).refused called refused
  current turn member called := (Slot.step_of_mem member).current_answer called
  noneExactly earlier turn later split := by
    obtain ⟨before, _, rfl, start, _⟩ := Slot.turns_split split
    rw [start]
    exact Slot.afterAll_empty before rfl

end ClangAccess
