import ClangAccess.Proofs.Accounting
import ClangAccess.Proofs.ParseStages

namespace ClangAccess

/-- A caller with the units that it has not dropped yet and the entities that it got from them. -/
structure Client where
  process : Process
  units : List ParsedUnit
  entities : List Entity

/-- What a caller may do with libclang, each time with the files as they are then. Units and entities go by
their place among those at hand. -/
inductive Call where
  | parse (view : FileView) (backend : Backend) (file : Path) (args : List String) (options : ParseOptions)
  | diagnostics (unit : Nat)
  | root (unit : Nat)
  | kind (entity : Nat)
  | kindName (entity : Nat)
  | spelling (entity : Nat)
  | location (entity : Nat)
  | isInMainFile (entity : Nat)
  | children (entity : Nat)
  | drop (unit : Nat)

namespace Client

/-- A caller that has done nothing yet. -/
def start (p : Process) : Client := ⟨{ p with ledger := #[] }, [], []⟩

def use {α : Type} (c : Client) (work : Usage α) : α × Client :=
  let (a, process) := c.process.use work
  (a, { c with process })

/-- Take some entities in hand. -/
def take (c : Client) (found : List Entity) : Client := { c with entities := c.entities ++ found }

/-- Ask something of an entity, if there is one at that place. -/
def look {α : Type} (c : Client) (entity : Nat) (work : Entity → Usage α) : Client :=
  match c.entities[entity]? with
  | none => c
  | some e => (c.use (work e)).2

/-- The entities of a unit are gone with it. -/
def step (c : Client) : Call → Client
  | .parse view backend file args options =>
    match (Session.parse view backend file args options).run.run c.process with
    | (.ok unit, process) => { c with process, units := unit :: c.units }
    | (.error _, process) => { c with process }
  | .diagnostics _ => c
  | .root unit =>
    match c.units[unit]? with
    | none => c
    | some u =>
      let (e, c) := c.use u.root
      c.take [e]
  | .kind entity => c.look entity Entity.kind
  | .kindName entity => c.look entity Entity.kindName
  | .spelling entity => c.look entity Entity.spelling
  | .location entity => c.look entity Entity.location
  | .isInMainFile entity => c.look entity Entity.isInMainFile
  | .children entity =>
    match c.entities[entity]? with
    | none => c
    | some e =>
      let (below, c) := c.use e.children
      c.take below
  | .drop unit =>
    match c.units[unit]? with
    | none => c
    | some u =>
      let (_, c) := c.use u.release
      { c with units := c.units.eraseIdx unit, entities := c.entities.filter fun e => e.unit ≠ u.unit }

def run (c : Client) (calls : List Call) : Client := calls.foldl step c

end Client

def ParsedUnit.holding (u : ParsedUnit) : Holding := ⟨u.library.number, u.index, u.unit⟩

namespace Client

def held (c : Client) : List Holding := c.units.map ParsedUnit.holding

def ledger (c : Client) : List Entry := c.process.ledger.toList

/-- The books are in order for the units at hand, and each entity belongs to one of them. -/
structure Sound (c : Client) : Prop where
  books : Accounted c.ledger c.held
  distinct : c.held.Nodup
  attached : ∀ e ∈ c.entities, ∃ u ∈ c.units, e.library = u.library ∧ e.unit = u.unit

theorem start_sound (p : Process) : (start p).Sound where
  books := .start
  distinct := List.nodup_nil
  attached := by simp [start]

end Client

/-- A parse leaves the books in order, with one unit more at hand if it succeeds. -/
theorem ParseOutcome.accounted {view : FileView} {backend : Backend} {file : Path} {args : List String}
    {call : ParseCall} {opening : Except String Library} {result : Except ClangError ParsedUnit}
    {entries acquired rest : List Entry} {held : List Holding} (books : Accounted entries held)
    (outcome : ParseOutcome view backend file args call opening entries.length result acquired rest) :
    Accounted (entries ++ (acquired ++ rest))
      (match result with | .ok u => u.holding :: held | .error _ => held) := by
  cases outcome with
  | absent | unopened | nulArgument => simpa using books
  | noIndex => exact books.noIndex _ 0 0
  | @noUnit library => exact books.noUnit library.number 0 0 call
  | @failed library _ _ copied _ _ _ _ _ _ tidy =>
    have opened := books.opened library.number 0 0 call
    have copiedBooks : Accounted (_ ++ copied) _ :=
      opened.tidy (List.mem_cons_self ..) (by simpa using tidy)
    have fresh : ∀ h ∈ held, h ≠ ⟨library.number, entries.length, entries.length + 1⟩ := by
      rintro h member rfl
      exact Nat.lt_irrefl _ (books.index_lt member)
    have left : ∀ h, h ∈ held ↔ h ≠ ⟨library.number, entries.length, entries.length + 1⟩ ∧
        h ∈ ⟨library.number, entries.length, entries.length + 1⟩ :: held := by
      intro h
      constructor
      · intro member
        exact ⟨fresh h member, List.mem_cons_of_mem _ member⟩
      · rintro ⟨different, member⟩
        exact (List.mem_cons.mp member).resolve_left different
    simpa only [List.append_assoc] using copiedBooks.released (List.mem_cons_self ..) left
  | @parsed library _ _ _ _ _ _ _ tidy =>
    have opened := books.opened library.number 0 0 call
    have copiedBooks : Accounted (_ ++ rest) _ :=
      opened.tidy (List.mem_cons_self ..) (by simpa using tidy)
    simpa only [List.append_assoc, ParsedUnit.holding] using copiedBooks

namespace Client.Sound

variable {c : Client}

/-- To look at a unit that is at hand leaves the books in order. -/
theorem use {α : Type} (sound : c.Sound) {u : ParsedUnit} (member : u ∈ c.units) {work : Usage α} {value : α}
    (clean : work.Clean u.library.number u.unit value) :
    ∃ process, c.use work = (value, { c with process }) ∧ Sound { c with process } := by
  obtain ⟨later, entries, run, grown, tidy⟩ := clean c.process.ledger
  have books : Accounted later.toList c.held := by
    rw [grown]
    exact sound.books.tidy (List.mem_map_of_mem member) tidy
  refine ⟨{ c.process with ledger := later }, ?_, books, sound.distinct, sound.attached⟩
  change ((work.run c.process.ledger).1,
    { c with process := { c.process with ledger := (work.run c.process.ledger).2 } }) = _
  rw [run]

theorem take (sound : c.Sound) {found : List Entity}
    (attached : ∀ e ∈ found, ∃ u ∈ c.units, e.library = u.library ∧ e.unit = u.unit) : (c.take found).Sound := by
  refine ⟨sound.books, sound.distinct, fun e member => ?_⟩
  rcases List.mem_append.mp member with old | new
  · exact sound.attached e old
  · exact attached e new

theorem look {α : Type} (sound : c.Sound) (entity : Nat) {work : Entity → Usage α} {value : Entity → α}
    (clean : ∀ e, (work e).Clean e.library.number e.unit (value e)) : (c.look entity work).Sound := by
  unfold Client.look
  split
  · exact sound
  · rename_i e here
    obtain ⟨u, member, library, unit⟩ := sound.attached e (List.mem_of_getElem? here)
    obtain ⟨process, used, still⟩ := sound.use member (library ▸ unit ▸ clean e)
    rw [used]
    exact still

theorem root (sound : c.Sound) (unit : Nat) : (c.step (.root unit)).Sound := by
  simp only [step]
  split
  · exact sound
  · rename_i u here
    have member := List.mem_of_getElem? here
    obtain ⟨process, used, still⟩ := sound.use member (.root u)
    rw [used]
    refine still.take fun e found => ⟨u, member, ?_⟩
    rw [List.mem_singleton.mp found]
    exact ⟨rfl, rfl⟩

theorem children (sound : c.Sound) (entity : Nat) : (c.step (.children entity)).Sound := by
  simp only [step]
  split
  · exact sound
  · rename_i e here
    obtain ⟨u, member, library, unit⟩ := sound.attached e (List.mem_of_getElem? here)
    obtain ⟨process, used, still⟩ := sound.use member (library ▸ unit ▸ Usage.Clean.children e)
    rw [used]
    refine still.take fun below found => ⟨u, member, ?_⟩
    obtain ⟨node, _, rfl⟩ := List.mem_map.mp found
    exact ⟨rfl, rfl⟩

theorem parse (sound : c.Sound) (view : FileView) (backend : Backend) (file : Path) (args : List String)
    (options : ParseOptions) : (c.step (.parse view backend file args options)).Sound := by
  obtain ⟨result, q, acquired, rest, run, grown, _, _, outcome⟩ :=
    Session.parse_outcome view backend file args options c.process
  have books : Accounted q.ledger.toList _ := grown ▸ outcome.accounted sound.books
  simp only [step, run]
  cases result with
  | error e => exact ⟨books, sound.distinct, sound.attached⟩
  | ok u =>
    refine ⟨books, List.nodup_cons.mpr ⟨fun member => ?_, sound.distinct⟩, fun e member => ?_⟩
    · have bound := sound.books.index_lt member
      cases outcome
      exact Nat.lt_irrefl _ bound
    · obtain ⟨u', member, same⟩ := sound.attached e member
      exact ⟨u', List.mem_cons_of_mem _ member, same⟩

/-- No other unit at hand is the one that is dropped. -/
theorem mem_dropped (sound : c.Sound) {unit : Nat} {u : ParsedUnit} (here : c.units[unit]? = some u)
    (h : Holding) : h ∈ (c.units.eraseIdx unit).map ParsedUnit.holding ↔ h ≠ u.holding ∧ h ∈ c.held := by
  obtain ⟨bound, rfl⟩ := List.getElem?_eq_some_iff.mp here
  have split : c.units = c.units.take unit ++ c.units[unit] :: c.units.drop (unit + 1) := by
    rw [List.getElem_cons_drop, List.take_append_drop]
  have whole : c.held = (c.units.take unit).map ParsedUnit.holding ++
      c.units[unit].holding :: (c.units.drop (unit + 1)).map ParsedUnit.holding := by
    rw [← List.map_cons, ← List.map_append, ← split, Client.held]
  have distinct := sound.distinct
  rw [whole] at distinct ⊢
  obtain ⟨_, last, apart⟩ := List.nodup_append.mp distinct
  have later := (List.nodup_cons.mp last).1
  have earlier := fun h member => apart h member _ (List.mem_cons_self ..)
  rw [List.eraseIdx_eq_take_drop_succ, List.map_append, List.mem_append, List.mem_append, List.mem_cons]
  constructor
  · rintro (before | after)
    · exact ⟨earlier h before, Or.inl before⟩
    · exact ⟨fun same => later (same ▸ after), Or.inr (Or.inr after)⟩
  · rintro ⟨different, before | same | after⟩
    · exact Or.inl before
    · exact absurd same different
    · exact Or.inr after

theorem drop (sound : c.Sound) (unit : Nat) : (c.step (.drop unit)).Sound := by
  simp only [step]
  split
  · exact sound
  · rename_i u here
    have member := List.mem_of_getElem? here
    have books := sound.books.released (List.mem_map_of_mem member) (sound.mem_dropped here)
    have released : (c.use u.release).2.process.ledger.toList = c.ledger ++
        [⟨u.holding.library, .unitDisposed u.holding.unit⟩,
          ⟨u.holding.library, .indexDisposed u.holding.index⟩] := by
      change ((c.process.ledger.push _).push _).toList = _
      simp [Client.ledger, ParsedUnit.holding]
    rw [← released] at books
    have fewer := (List.eraseIdx_sublist c.units unit).map ParsedUnit.holding
    refine ⟨books, List.Pairwise.sublist fewer sound.distinct, fun e left => ?_⟩
    obtain ⟨present, other⟩ := List.mem_filter.mp left
    obtain ⟨u', also, library, same⟩ := sound.attached e present
    obtain ⟨i, there⟩ := List.getElem?_of_mem also
    -- an entity that stays has another unit than the one that goes, so its unit stays as well
    refine ⟨u', List.mem_eraseIdx_iff_getElem?.mpr ⟨i, ?_, there⟩, library, same⟩
    rintro rfl
    rw [here] at there
    cases there
    exact absurd same (of_decide_eq_true other)

theorem step (sound : c.Sound) (call : Call) : (c.step call).Sound := by
  cases call with
  | parse view backend file args options => exact sound.parse view backend file args options
  | diagnostics _ => exact sound
  | root unit => exact sound.root unit
  | kind entity => exact sound.look entity .kind
  | kindName entity => exact sound.look entity .kindName
  | spelling entity => exact sound.look entity .spelling
  | location entity => exact sound.look entity .location
  | isInMainFile entity => exact sound.look entity .isInMainFile
  | children entity => exact sound.children entity
  | drop unit => exact sound.drop unit

end Client.Sound

theorem Client.run_sound (p : Process) (calls : List Call) : ((start p).run calls).Sound := by
  suffices ∀ c : Client, c.Sound → (c.run calls).Sound from this _ (start_sound p)
  induction calls with
  | nil => exact fun c sound => sound
  | cons call rest ih => exact fun c sound => ih _ (sound.step call)

/-- What is owed to libclang has been paid, but for the indices and units that are held. -/
structure ReleaseBalance (entries : List Entry) (held : List Holding) : Prop where
  /-- Nothing is done with a handle but what belongs to one of its lives. -/
  lives : ∀ n, Life held n (trail entries n)
  /-- What is held was had from libclang. -/
  onRecord : ∀ h ∈ held, h.OnRecord entries
  /-- An index is not disposed of while its unit is held, and once otherwise. -/
  index : ∀ library exclude display n, ⟨library, .indexCreated exclude display (some n)⟩ ∈ entries →
    (∃ h ∈ held, h.library = library ∧ h.index = n ∧ ∃ call, trail entries n =
        [⟨library, .indexCreated exclude display (some n)⟩, ⟨library, .parsed n call (some h.unit)⟩]) ∨
      ((∀ h ∈ held, h.index ≠ n) ∧ ∃ call unit, trail entries n =
        [⟨library, .indexCreated exclude display (some n)⟩, ⟨library, .parsed n call unit⟩,
          ⟨library, .indexDisposed n⟩])
  /-- A unit is not disposed of while it is held, and once otherwise; it is not used after that. -/
  unit : ∀ library index call n, ⟨library, .parsed index call (some n)⟩ ∈ entries →
    (⟨library, index, n⟩ ∈ held ∧ ∃ uses, trail entries n =
        ⟨library, .parsed index call (some n)⟩ :: List.replicate uses ⟨library, .unitUsed n⟩) ∨
      ((∀ h ∈ held, h.unit ≠ n) ∧ ∃ uses, trail entries n =
        ⟨library, .parsed index call (some n)⟩ ::
          (List.replicate uses ⟨library, .unitUsed n⟩ ++ [⟨library, .unitDisposed n⟩]))
  together : DisposedTogether entries
  /-- Whatever was borrowed before a disposal was given back before it, once. -/
  atDisposals : ∀ before after e, entries = before ++ e :: after → e.event.disposes = true →
    ∀ library loan n, ⟨library, .lent loan n⟩ ∈ before →
      trail before n = [⟨library, .lent loan n⟩, ⟨library, .returned loan n⟩]

/-- What has been given back already has its whole trail behind it. -/
theorem Accounted.trail_before {entries before after : List Entry} {held : List Holding}
    (books : Accounted entries held) (split : entries = before ++ after) (settled : Settled before)
    {library n : Nat} {loan : Loan} (lent : ⟨library, .lent loan n⟩ ∈ before) :
    trail before n = [⟨library, .lent loan n⟩, ⟨library, .returned loan n⟩] := by
  have whole := books.trail_lent (split ▸ List.mem_append_left after lent)
  have returned : ⟨library, .returned loan n⟩ ∈ trail before n :=
    mem_trail.mpr ⟨settled library loan n lent, by simp [Event.handles]⟩
  have present : ⟨library, .lent loan n⟩ ∈ trail before n := mem_trail.mpr ⟨lent, by simp [Event.handles]⟩
  rw [split, trail_append] at whole
  rcases trailed : trail before n with _ | ⟨first, _ | ⟨second, more⟩⟩
  · simp [trailed] at present
  · rw [trailed] at present returned
    rw [← List.mem_singleton.mp present] at returned
    simp at returned
  · rw [trailed] at whole
    simp only [List.cons_append, List.cons.injEq, List.append_eq_nil_iff] at whole
    obtain ⟨rfl, rfl, rfl, _⟩ := whole
    rfl

theorem Accounted.balance {entries : List Entry} {held : List Holding} (books : Accounted entries held) :
    ReleaseBalance entries held where
  lives := books.lives
  onRecord := books.onRecord
  index _ _ _ n created := (books.lives n).of_created (mem_trail.mpr ⟨created, by simp [Event.handles]⟩)
  unit library index call n parsed :=
    (books.lives n).of_parsed (books.apart library index call n parsed)
      (mem_trail.mpr ⟨parsed, by simp [Event.handles]⟩)
  together := books.together
  atDisposals before after e split disposes _ _ _ lent :=
    books.trail_before split (books.atDisposals before after e split disposes) lent

/-- Whatever a caller does, in whatever order, libclang gets back what it is owed. -/
theorem releases_balance_in_every_run (p : Process) (calls : List Call) :
    ReleaseBalance ((Client.start p).run calls).ledger ((Client.start p).run calls).held :=
  (Client.run_sound p calls).books.balance

end ClangAccess
