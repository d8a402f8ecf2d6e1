import ClangAccess.Proofs.ParseStages

namespace ClangAccess

/-- Work that opens no library. -/
def Work.OpensNothing {α : Type} (work : Work α) : Prop :=
  ∀ p : Process, (work.run.run p).2.openings = p.openings

namespace Work.OpensNothing

variable {α β : Type}

theorem pure (a : α) : OpensNothing (Pure.pure a) := fun _ => rfl

theorem throw (e : ClangError) : OpensNothing (MonadExcept.throw e : Work α) := fun _ => rfl

theorem debug (text : String) : OpensNothing (Work.debug text) := fun _ => rfl

theorem use (work : Usage α) : OpensNothing (Work.use work) := fun _ => rfl

theorem bind {work : Work α} {next : α → Work β} (first : work.OpensNothing)
    (rest : ∀ a, (next a).OpensNothing) : (work >>= next).OpensNothing := by
  intro p
  have kept := first p
  cases run : work.run.run p with
  | mk result q =>
    rw [run] at kept
    cases result with
    | ok a => rw [Work.bind_run run, rest a q, kept]
    | error e => rw [Work.bind_run_error run, kept]

end Work.OpensNothing

namespace Session

theorem refuseNul_opensNothing (file : Path) (args : List String) : (refuseNul file args).OpensNothing := by
  intro p
  unfold refuseNul
  split <;> split <;> rfl

theorem index_opensNothing (library : Library) (file : Path) : (index library file).OpensNothing := by
  refine .bind (.debug _) fun _ => .bind (.use _) fun index => ?_
  cases index with
  | none => exact .throw _
  | some index => exact .pure index

theorem request_opensNothing (view : FileView) (library : Library) (call : ParseCall) :
    (request view library call).OpensNothing := by
  have asked : (ask view library call).OpensNothing :=
    .bind (index_opensNothing library call.file) fun _ => .bind (.debug _) fun _ => .bind (.use _) fun _ =>
      .bind (.debug _) fun _ => .pure _
  refine .bind asked fun (index, code, unit) => ?_
  dsimp only
  split
  · refine .bind (.use _) fun diagnostics => ?_
    split
    · exact .pure _
    · exact .bind (.debug _) fun _ => .pure _
  · exact .bind (.use _) fun _ => .throw _

/-- Of a parse, only the call for the library can open one. -/
theorem parse_openings {view : FileView} {file : Path} (backend : Backend) (args : List String)
    (options : ParseOptions) (p : Process) (present : view.isFile file = true) :
    ((parse view backend file args options).run.run p).2.openings = p.openingsWith view backend := by
  obtain ⟨q, _, _, openings, unopened, opened⟩ := @parse_present view backend file p args options present
  rw [← openings]
  cases opening : p.opening view backend with
  | error reason => rw [unopened reason opening]
  | ok library =>
    rw [opened library opening]
    have rest : (do refuseNul file args; request view library (callFor file args options)).OpensNothing :=
      .bind (refuseNul_opensNothing file args) fun _ => request_opensNothing view library _
    exact rest q

end Session

/-- What came of each attempt to open the library of a backend, in order. -/
def Process.tries (p : Process) (b : Backend) : List (Except String Library) :=
  (p.openings.filter fun o => o.backend = b.number).map Opening.outcome

namespace Process

variable {p : Process} {b : Backend}

theorem outcome?_eq_head? (p : Process) (b : Backend) : p.outcome? b = (p.tries b).head? := by
  rw [tries, List.head?_map, List.head?_filter, outcome?]

theorem isLoaded_iff {tried : List (Except String Library)} (tries : p.tries b = tried) (once : tried.length ≤ 1) :
    p.isLoaded b = true ↔ ∃ library, p.tries b = [.ok library] := by
  rw [isLoaded, outcome?_eq_head?, tries]
  match tried, once with
  | [], _ => simp
  | [.ok library], _ => simp
  | [.error reason], _ => simp

/-- A library that has not been tried is opened, and what comes of it is the one thing to remember. -/
theorem tries_untried {q : Process} {view : FileView} (untried : p.tries b = [])
    (openings : q.openings = p.openingsWith view b) : q.tries b = [p.opening view b] := by
  have fresh : p.outcome? b = none := by rw [outcome?_eq_head?, untried, List.head?_nil]
  have kept : p.openings.filter (fun o => o.backend = b.number) = [] := List.map_eq_nil_iff.mp untried
  have added : q.openings = p.openings ++ [⟨b.number, (p.openLibrary view b.libraryFile).1⟩] := by
    rw [openings, openingsWith, fresh]
  rw [tries, added, List.filter_append, kept, opening, fresh]
  simp

theorem tries_tried {q : Process} {view : FileView} {outcome : Except String Library}
    (tried : p.tries b = [outcome]) (openings : q.openings = p.openingsWith view b) :
    q.tries b = [outcome] ∧ p.opening view b = outcome := by
  have known : p.outcome? b = some outcome := by rw [outcome?_eq_head?, tried, List.head?_cons]
  have kept : q.openings = p.openings := by rw [openings, openingsWith, known]
  constructor
  · rw [← tried, tries, tries, kept]
  · rw [opening, known, Option.getD_some]

end Process

/-- A request to a backend, with the files as they are then. -/
inductive BackendCall where
  | load (view : FileView)
  | parse (view : FileView) (file : Path) (args : List String) (options : ParseOptions)

namespace BackendCall

def view : BackendCall → FileView
  | load view => view
  | parse view .. => view

/-- A request to parse a file that is not there is refused before the library is needed. -/
def needsLibrary : BackendCall → Bool
  | load _ => true
  | parse view file .. => view.isFile file

end BackendCall

inductive BackendAnswer where
  | loaded (result : Except ClangError Unit)
  | parsed (result : Except ClangError ParsedUnit)

def BackendAnswer.error? : BackendAnswer → Option ClangError
  | loaded (.error e) => some e
  | parsed (.error e) => some e
  | _ => none

/-- A request and its answer, with the process before and after. -/
structure BackendTurn where
  before : Process
  call : BackendCall
  answer : BackendAnswer
  after : Process

namespace Backend

def turn (b : Backend) (p : Process) : BackendCall → BackendTurn
  | .load view =>
    let (result, q) := (b.open view).run.run p
    ⟨p, .load view, .loaded (result.map fun _ => ()), q⟩
  | .parse view file args options =>
    let (result, q) := (Session.parse view b file args options).run.run p
    ⟨p, .parse view file args options, .parsed result, q⟩

/-- The turns that some requests take one after the other. -/
def turns (b : Backend) (p : Process) : List BackendCall → List BackendTurn
  | [] => []
  | call :: rest => b.turn p call :: b.turns (b.turn p call).after rest

end Backend

namespace BackendTurn

/-- An answer that agrees with what came of opening the library. -/
def Shows (turn : BackendTurn) (b : Backend) : Except String Library → Prop
  | .error reason => turn.answer.error? = some (.libraryLoad b.libraryFile reason)
  | .ok library =>
    (∀ path reason, turn.answer.error? ≠ some (.libraryLoad path reason)) ∧
      (∀ view, turn.call = .load view → turn.answer = .loaded (.ok ())) ∧
      ∀ u, turn.answer = .parsed (.ok u) → u.library = library

end BackendTurn

namespace Backend

variable {b : Backend} {p : Process} {call : BackendCall}

/-- A request that does not need the library is one to parse a file that is not there. It changes nothing. -/
theorem turn_unneeded (b : Backend) (p : Process) (unneeded : call.needsLibrary = false) :
    ∃ view file args options, call = .parse view file args options ∧ view.isFile file = false ∧
      b.turn p call = ⟨p, call, .parsed (.error (.fileNotFound file)), p⟩ := by
  cases call with
  | load view => exact nomatch unneeded
  | parse view file args options =>
    refine ⟨view, file, args, options, rfl, unneeded, ?_⟩
    rw [turn, Session.parse_absent unneeded]

theorem turn_needed (b : Backend) (p : Process) (needed : call.needsLibrary = true) :
    (b.turn p call).after.openings = p.openingsWith call.view b ∧
      (b.turn p call).Shows b (p.opening call.view b) := by
  cases call with
  | load view =>
    obtain ⟨q, run, _, _, openings⟩ := b.open_run view p
    have ran : b.turn p (.load view) =
        ⟨p, .load view, .loaded ((b.opened (p.opening view b)).map fun _ => ()), q⟩ := by
      rw [turn, run]
    rw [ran]
    refine ⟨openings, ?_⟩
    change BackendTurn.Shows _ b (p.opening view b)
    cases p.opening view b with
    | error reason => rfl
    | ok library => exact ⟨nofun, fun _ _ => rfl, nofun⟩
  | parse view file args options =>
    refine ⟨Session.parse_openings b args options p needed, ?_⟩
    obtain ⟨result, q, _, _, run, _, _, _, outcome⟩ := Session.parse_outcome view b file args options p
    have ran : b.turn p (.parse view file args options) = ⟨p, .parse view file args options, .parsed result, q⟩ := by
      rw [turn, run]
    rw [ran]
    change BackendTurn.Shows _ b (p.opening view b)
    cases outcome with
    | absent gone => exact absurd (gone.symm.trans needed) nofun
    | unopened _ failed =>
      rw [failed]
      rfl
    | nulArgument _ opened | noIndex _ opened | noUnit _ opened | failed _ opened =>
      rw [opened]
      exact ⟨nofun, nofun, nofun⟩
    | parsed _ opened =>
      rw [opened]
      refine ⟨nofun, nofun, fun u handed => ?_⟩
      cases handed
      rfl

theorem turn_before (b : Backend) (p : Process) (call : BackendCall) : (b.turn p call).before = p := by
  cases call <;> rfl

theorem turn_call (b : Backend) (p : Process) (call : BackendCall) : (b.turn p call).call = call := by
  cases call <;> rfl

theorem turn_of_mem {calls : List BackendCall} {turn : BackendTurn} (member : turn ∈ b.turns p calls) :
    ∃ q call, turn = b.turn q call := by
  induction calls generalizing p with
  | nil => simp [turns] at member
  | cons call rest ih =>
    rcases List.mem_cons.mp member with rfl | later
    · exact ⟨p, call, rfl⟩
    · exact ih later

/-- A turn tries the library only if it has not been tried. -/
theorem turn_tries_once (call : BackendCall) (once : (p.tries b).length ≤ 1) :
    ((b.turn p call).after.tries b).length ≤ 1 := by
  cases needed : call.needsLibrary with
  | false =>
    obtain ⟨_, _, _, _, _, _, ran⟩ := b.turn_unneeded p needed
    rw [ran]
    exact once
  | true =>
    have openings := (b.turn_needed p needed).1
    match tried : p.tries b, once with
    | [], _ => simp [Process.tries_untried tried openings]
    | [outcome], _ => simp [(Process.tries_tried tried openings).1]

theorem turns_try_once (calls : List BackendCall) (once : (p.tries b).length ≤ 1) :
    ∀ t ∈ b.turns p calls, (t.before.tries b).length ≤ 1 ∧ (t.after.tries b).length ≤ 1 := by
  induction calls generalizing p with
  | nil => simp [turns]
  | cons call rest ih =>
    have after := turn_tries_once call once
    intro t member
    rcases List.mem_cons.mp member with rfl | later
    · rw [b.turn_before]
      exact ⟨once, after⟩
    · exact ih after t later

/-- Once the library has been tried, that is never done again, and all see what came of it. -/
theorem turns_tried {outcome : Except String Library} {calls : List BackendCall} (tried : p.tries b = [outcome]) :
    ∀ t ∈ b.turns p calls, t.before.tries b = [outcome] ∧ t.after.tries b = [outcome] ∧
      (t.call.needsLibrary = true → t.Shows b outcome) := by
  induction calls generalizing p with
  | nil => simp [turns]
  | cons call rest ih =>
    have step : (b.turn p call).after.tries b = [outcome] ∧
        (call.needsLibrary = true → (b.turn p call).Shows b outcome) := by
      cases needed : call.needsLibrary with
      | false =>
        obtain ⟨_, _, _, _, _, _, ran⟩ := b.turn_unneeded p needed
        rw [ran]
        exact ⟨tried, nofun⟩
      | true =>
        obtain ⟨openings, shows⟩ := b.turn_needed p needed
        obtain ⟨kept, same⟩ := Process.tries_tried tried openings
        exact ⟨kept, fun _ => same ▸ shows⟩
    intro t member
    rcases List.mem_cons.mp member with rfl | later
    · rw [b.turn_before, b.turn_call]
      exact ⟨tried, step⟩
    · exact ih step.1 t later

/-- Until the library is needed for the first time the process stays as it was. -/
theorem turns_unneeded {calls : List BackendCall} {earlier later : List BackendTurn} {turn : BackendTurn}
    (split : b.turns p calls = earlier ++ turn :: later) (unneeded : ∀ t ∈ earlier, t.call.needsLibrary = false) :
    ∃ call rest, turn = b.turn p call ∧ later = b.turns turn.after rest := by
  induction earlier generalizing calls with
  | nil =>
    cases calls with
    | nil => exact nomatch split
    | cons call rest =>
      obtain ⟨rfl, rfl⟩ := List.cons.inj split
      exact ⟨call, rest, rfl, rfl⟩
  | cons first earlier ih =>
    cases calls with
    | nil => exact nomatch split
    | cons call rest =>
      obtain ⟨rfl, tail⟩ := List.cons.inj split
      have idle := unneeded _ (List.mem_cons_self ..)
      rw [b.turn_call] at idle
      obtain ⟨_, _, _, _, _, _, ran⟩ := b.turn_unneeded p idle
      rw [ran] at tail
      exact ih tail fun t member => unneeded t (List.mem_cons_of_mem _ member)

end Backend

/-- A library file that has to be brought into memory: none that is there goes by its path or is the same file. -/
def Process.Brings (p : Process) (view : FileView) (path : Path) (found : SharedLibrary) : Prop :=
  p.named? path = none ∧ view.library path = .ok found ∧ (p.libraries.find? fun l => l.file = found.file) = none

/-- What comes of opening a library file is what the file deserves: if it can be loaded at all, it is refused
only for a function that it lacks, and the first of these is named. A library in memory is not loaded again. -/
structure LinkedTo (p : Process) (view : FileView) (path : Path) (outcome : Except String Library) : Prop where
  named : ∀ l, p.named? path = some l → outcome = .ok l.library
  unloadable : ∀ reason, p.named? path = none → view.library path = .error reason → outcome = .error reason
  shared : ∀ found l, p.named? path = none → view.library path = .ok found →
    (p.libraries.find? fun l => l.file = found.file) = some l → outcome = .ok l.library
  lacking : ∀ found, p.Brings view path found →
    ((∃ reason, outcome = .error reason) ↔ ∃ name ∈ entryPoints, name ∈ found.missing)
  firstMissing : ∀ found reason, p.Brings view path found → outcome = .error reason →
    ∃ before name after, entryPoints = before ++ name :: after ∧ (∀ earlier ∈ before, earlier ∉ found.missing) ∧
      name ∈ found.missing ∧ reason = s!"missing symbol {name}: {view.missingText path name}"
  linked : ∀ found library, p.Brings view path found → outcome = .ok library →
    library = ⟨found.file, found.givesNoIndex, found.kindName⟩

namespace Process

variable {p : Process} {view : FileView} {path : Path} {found : SharedLibrary}

/-- In a process that has no library yet every file has to be brought in. -/
theorem brings_of_empty (empty : p.libraries = []) (loadable : view.library path = .ok found) :
    p.Brings view path found := by
  refine ⟨?_, loadable, ?_⟩
  · rw [named?, empty, List.find?_nil]
  · rw [empty, List.find?_nil]

theorem openLibrary_named {l : Loaded} (named : p.named? path = some l) :
    (p.openLibrary view path).1 = .ok l.library := by
  simp only [openLibrary, named]

theorem openLibrary_unloadable {reason : String} (unnamed : p.named? path = none)
    (unloadable : view.library path = .error reason) : (p.openLibrary view path).1 = .error reason := by
  simp only [openLibrary, unnamed, unloadable]

theorem openLibrary_shared {l : Loaded} (unnamed : p.named? path = none) (loadable : view.library path = .ok found)
    (shared : (p.libraries.find? fun l => l.file = found.file) = some l) :
    (p.openLibrary view path).1 = .ok l.library := by
  simp only [openLibrary, unnamed, loadable, bringIn, shared]

theorem openLibrary_lacking {name : String} (brings : p.Brings view path found)
    (lacks : found.firstMissing? = some name) :
    (p.openLibrary view path).1 =
      .error s!"missing symbol {name}: {view.missingText path name}" := by
  obtain ⟨unnamed, loadable, alone⟩ := brings
  simp only [openLibrary, unnamed, loadable, bringIn, alone, lacks]

theorem openLibrary_whole (brings : p.Brings view path found) (whole : found.firstMissing? = none) :
    (p.openLibrary view path).1 = .ok ⟨found.file, found.givesNoIndex, found.kindName⟩ := by
  obtain ⟨unnamed, loadable, alone⟩ := brings
  simp only [openLibrary, unnamed, loadable, bringIn, alone, whole]

theorem openLibrary_linked (p : Process) (view : FileView) (path : Path) :
    LinkedTo p view path (p.openLibrary view path).1 := by
  constructor
  case named => exact fun l named => openLibrary_named named
  case unloadable => exact fun reason unnamed unloadable => openLibrary_unloadable unnamed unloadable
  case shared => exact fun found l unnamed loadable shared => openLibrary_shared unnamed loadable shared
  case lacking =>
    intro found brings
    cases lacks : found.firstMissing? with
    | none =>
      have whole : ∀ name ∈ entryPoints, name ∉ found.missing := by
        simpa [SharedLibrary.firstMissing?] using lacks
      rw [openLibrary_whole brings lacks]
      simpa using whole
    | some name =>
      have listed : name ∈ entryPoints := List.mem_of_find?_eq_some lacks
      have missing : name ∈ found.missing := by simpa using List.find?_some lacks
      rw [openLibrary_lacking brings lacks]
      exact ⟨fun _ => ⟨name, listed, missing⟩, fun _ => ⟨_, rfl⟩⟩
  case firstMissing =>
    intro found reason brings refused
    cases lacks : found.firstMissing? with
    | none => exact nomatch (openLibrary_whole brings lacks).symm.trans refused
    | some name =>
      obtain ⟨missing, before, after, order, present⟩ := List.find?_eq_some_iff_append.mp lacks
      have missing : name ∈ found.missing := by simpa using missing
      have present : ∀ earlier ∈ before, earlier ∉ found.missing := by simpa using present
      rw [openLibrary_lacking brings lacks] at refused
      exact ⟨before, name, after, order, present, missing, (Except.error.inj refused).symm⟩
  case linked =>
    intro found library brings handed
    cases lacks : found.firstMissing? with
    | none =>
      rw [openLibrary_whole brings lacks] at handed
      exact (Except.ok.inj handed).symm
    | some name => exact nomatch (openLibrary_lacking brings lacks).symm.trans handed

/-- The process as it would be had a backend never been tried. -/
def forgetting (p : Process) (b : Backend) : Process :=
  { p with openings := p.openings.filter fun o => o.backend ≠ b.number }

theorem forgetting_tries (p : Process) (b : Backend) : (p.forgetting b).tries b = [] := by
  simp [tries, forgetting, List.filter_filter]

end Process

/-- The history of a backend whose library is opened once, if at all, for all who hold the backend. -/
structure OpenedOnce (b : Backend) (turns : List BackendTurn) : Prop where
  atMostOnce : ∀ turn ∈ turns, (turn.after.tries b).length ≤ 1
  /-- The first request that needs the library opens it, and what comes of that is what all see from then on. -/
  opener : ∀ earlier turn later, turns = earlier ++ turn :: later →
    (∀ t ∈ earlier, t.call.needsLibrary = false) → turn.call.needsLibrary = true →
    ∃ outcome, turn.before.tries b = [] ∧ turn.after.tries b = [outcome] ∧
      LinkedTo turn.before turn.call.view b.libraryFile outcome ∧ turn.Shows b outcome ∧
      ∀ t ∈ later, t.before.tries b = [outcome] ∧ t.after.tries b = [outcome] ∧
        (t.call.needsLibrary = true → t.Shows b outcome)
  /-- No other request opens it. -/
  untried : ∀ earlier turn later, turns = earlier ++ turn :: later →
    (∀ t ∈ earlier, t.call.needsLibrary = false) → turn.before.tries b = []
  unneeded : ∀ turn ∈ turns, turn.call.needsLibrary = false →
    turn.after = turn.before ∧ ∃ view file args options, turn.call = .parse view file args options ∧
      view.isFile file = false ∧ turn.answer = .parsed (.error (.fileNotFound file))
  loadedBefore : ∀ turn ∈ turns, turn.before.isLoaded b = true ↔ ∃ library, turn.before.tries b = [.ok library]
  loadedAfter : ∀ turn ∈ turns, turn.after.isLoaded b = true ↔ ∃ library, turn.after.tries b = [.ok library]

/-- Whoever needs the library first has it opened, and nobody after that, whatever becomes of the files. -/
theorem library_opened_once (b : Backend) (p : Process) (calls : List BackendCall) :
    OpenedOnce b (b.turns (p.forgetting b) calls) := by
  have untried := p.forgetting_tries b
  have once : ((p.forgetting b).tries b).length ≤ 1 := by
    rw [untried]
    exact Nat.zero_le 1
  have tries := Backend.turns_try_once calls once
  constructor
  case atMostOnce => exact fun t member => (tries t member).2
  case opener =>
    intro earlier turn later split early needed
    obtain ⟨call, rest, rfl, rfl⟩ := Backend.turns_unneeded split early
    rw [Backend.turn_call] at needed ⊢
    obtain ⟨openings, shows⟩ := b.turn_needed _ needed
    have tried := Process.tries_untried untried openings
    have fresh : (p.forgetting b).opening call.view b =
        ((p.forgetting b).openLibrary call.view b.libraryFile).1 := by
      rw [Process.opening, Process.outcome?_eq_head?, untried]
      rfl
    have linked := (p.forgetting b).openLibrary_linked call.view b.libraryFile
    rw [← fresh] at linked
    rw [Backend.turn_before]
    exact ⟨_, untried, tried, linked, shows, Backend.turns_tried tried⟩
  case untried =>
    intro earlier turn later split early
    obtain ⟨call, _, rfl, _⟩ := Backend.turns_unneeded split early
    rw [Backend.turn_before]
    exact untried
  case unneeded =>
    intro turn member unneeded
    obtain ⟨q, call, rfl⟩ := Backend.turn_of_mem member
    rw [Backend.turn_call] at unneeded
    obtain ⟨view, file, args, options, rfl, absent, ran⟩ := b.turn_unneeded q unneeded
    rw [ran]
    exact ⟨rfl, view, file, args, options, rfl, absent, rfl⟩
  case loadedBefore => exact fun t member => Process.isLoaded_iff rfl (tries t member).1
  case loadedAfter => exact fun t member => Process.isLoaded_iff rfl (tries t member).2

end ClangAccess
