import ClangAccess.Proofs.Borrowing

namespace ClangAccess

/-- The handles that an event is about: indices, units and things on loan. -/
def Event.handles : Event → List Nat
  | .indexCreated _ _ index => index.toList
  | .parsed index _ unit => index :: unit.toList
  | .unitUsed unit => [unit]
  | .lent _ number => [number]
  | .returned _ number => [number]
  | .unitDisposed unit => [unit]
  | .indexDisposed index => [index]

/-- All that is done with one handle, in order. -/
def trail (entries : List Entry) (handle : Nat) : List Entry :=
  entries.filter fun e => handle ∈ e.event.handles

@[simp] theorem trail_nil (handle : Nat) : trail [] handle = [] := rfl

@[simp] theorem trail_append (entries more : List Entry) (handle : Nat) :
    trail (entries ++ more) handle = trail entries handle ++ trail more handle :=
  List.filter_append ..

theorem trail_cons (e : Entry) (entries : List Entry) (handle : Nat) :
    trail (e :: entries) handle =
      if handle ∈ e.event.handles then e :: trail entries handle else trail entries handle := by
  simp only [trail, List.filter_cons, decide_eq_true_eq]

@[simp] theorem mem_trail {entries : List Entry} {handle : Nat} {e : Entry} :
    e ∈ trail entries handle ↔ e ∈ entries ∧ handle ∈ e.event.handles := by
  simp [trail]

theorem trail_request (library exclude display n : Nat) (call : ParseCall) {index unit : Nat}
    (apart : index ≠ unit) :
    trail [⟨library, .indexCreated exclude display (some index)⟩, ⟨library, .parsed index call (some unit)⟩] n =
      if n = index then
        [⟨library, .indexCreated exclude display (some index)⟩, ⟨library, .parsed index call (some unit)⟩]
      else if n = unit then [⟨library, .parsed index call (some unit)⟩] else [] := by
  by_cases atIndex : n = index <;> by_cases atUnit : n = unit <;> simp_all [trail_cons, Event.handles]

theorem trail_release (library n : Nat) {index unit : Nat} (apart : index ≠ unit) :
    trail [⟨library, .unitDisposed unit⟩, ⟨library, .indexDisposed index⟩] n =
      if n = index then [⟨library, .indexDisposed index⟩]
      else if n = unit then [⟨library, .unitDisposed unit⟩] else [] := by
  by_cases atIndex : n = index <;> by_cases atUnit : n = unit <;> simp_all [trail_cons, Event.handles]

/-- What tidy entries are about: the one unit, and loans with numbers of their own. -/
theorem Tidy.mem {library unit first : Nat} {entries : List Entry}
    (tidy : Tidy library unit first entries) {e : Entry} (member : e ∈ entries) :
    e = ⟨library, .unitUsed unit⟩ ∨ ∃ loan number, first ≤ number ∧ number < first + entries.length ∧
      (e = ⟨library, .lent loan number⟩ ∨ e = ⟨library, .returned loan number⟩) := by
  induction tidy with
  | nil => simp at member
  | used _ ih =>
    rcases List.mem_cons.mp member with same | later
    · exact Or.inl same
    · rcases ih later with use | ⟨loan, number, lower, upper, which⟩
      · exact Or.inl use
      · exact Or.inr ⟨loan, number, by omega, by simp only [List.length_cons]; omega, which⟩
  | @borrowed first loan inner rest _ _ within after =>
    simp only [List.mem_cons, List.mem_append] at member
    simp only [List.length_cons, List.length_append]
    rcases member with lent | inside | returned | later
    · exact Or.inr ⟨loan, first, Nat.le_refl _, by omega, Or.inl lent⟩
    · rcases within inside with use | ⟨other, number, lower, upper, which⟩
      · exact Or.inl use
      · exact Or.inr ⟨other, number, by omega, by omega, which⟩
    · exact Or.inr ⟨loan, first, Nat.le_refl _, by omega, Or.inr returned⟩
    · rcases after later with use | ⟨other, number, lower, upper, which⟩
      · exact Or.inl use
      · exact Or.inr ⟨other, number, by omega, by omega, which⟩

/-- Tidy entries are about no handle but the unit and the loans that are numbered by their places. -/
theorem Tidy.trail_outside {library unit first n : Nat} {entries : List Entry}
    (tidy : Tidy library unit first entries) (other : n ≠ unit) (outside : n < first ∨ first + entries.length ≤ n) :
    trail entries n = [] := by
  rw [List.eq_nil_iff_forall_not_mem]
  intro e member
  obtain ⟨member, handle⟩ := mem_trail.mp member
  rcases tidy.mem member with rfl | ⟨loan, number, lower, upper, rfl | rfl⟩
  · exact other (List.mem_singleton.mp handle)
  · have same := List.mem_singleton.mp handle
    omega
  · have same := List.mem_singleton.mp handle
    omega

theorem Tidy.trail_unit {library unit first : Nat} {entries : List Entry}
    (tidy : Tidy library unit first entries) (older : unit < first) :
    ∃ uses, trail entries unit = List.replicate uses ⟨library, .unitUsed unit⟩ := by
  induction tidy with
  | nil => exact ⟨0, rfl⟩
  | used _ ih =>
    obtain ⟨uses, used⟩ := ih (by omega)
    exact ⟨uses + 1, by simp [trail_cons, Event.handles, used, List.replicate_succ]⟩
  | @borrowed first loan inner rest _ _ within after =>
    obtain ⟨uses, used⟩ := within (by omega)
    obtain ⟨more, reused⟩ := after (by omega)
    have different : unit ≠ first := by omega
    refine ⟨uses + more, ?_⟩
    simp only [trail_cons, trail_append, Event.handles, List.mem_singleton, different, if_false, used, reused,
      List.replicate_append_replicate]

/-- Whatever is borrowed in tidy entries is given back once. -/
theorem Tidy.trail_loan {library unit first n : Nat} {entries : List Entry}
    (tidy : Tidy library unit first entries) (older : unit < first) (lower : first ≤ n) :
    trail entries n = [] ∨
      ∃ loan, trail entries n = [⟨library, .lent loan n⟩, ⟨library, .returned loan n⟩] := by
  induction tidy with
  | nil => exact Or.inl rfl
  | @used first rest after ih =>
    have other : n ≠ unit := by omega
    simp only [trail_cons, Event.handles, List.mem_singleton, other, if_false]
    by_cases here : n = first
    · exact Or.inl (after.trail_outside other (by omega))
    · exact ih (by omega) (by omega)
  | @borrowed first loan inner rest inside later within after =>
    have other : n ≠ unit := by omega
    simp only [trail_cons, trail_append, Event.handles, List.mem_singleton]
    by_cases own : n = first
    · have innerNone := inside.trail_outside other (by omega)
      have laterNone := later.trail_outside other (by omega)
      subst own
      exact Or.inr ⟨loan, by simp only [innerNone, laterNone, if_true, List.nil_append]⟩
    · simp only [own, if_false]
      -- a number lies in one of the two stretches at most, so the other has nothing of it
      by_cases early : n < first + inner.length + 2
      · rw [later.trail_outside other (by omega), List.append_nil]
        exact within (by omega) (by omega)
      · rw [inside.trail_outside other (by omega), List.nil_append]
        exact after (by omega) (by omega)

/-- An index and the unit made with it, in a library. -/
structure Holding where
  library : Nat
  index : Nat
  unit : Nat
  deriving DecidableEq

/-- The lives that a handle may have while some indices and units are held. A handle is of one kind only, and
all that is ever done with it happens in one library. -/
inductive Life (held : List Holding) (n : Nat) : List Entry → Prop
  | unused : Life held n []
  | loan {library loan} :
      Life held n [⟨library, .lent loan n⟩, ⟨library, .returned loan n⟩]
  | heldIndex {h exclude display call} : h ∈ held → h.index = n →
      Life held n [⟨h.library, .indexCreated exclude display (some n)⟩, ⟨h.library, .parsed n call (some h.unit)⟩]
  | goneIndex {library exclude display call unit} : (∀ h ∈ held, h.index ≠ n) →
      Life held n [⟨library, .indexCreated exclude display (some n)⟩, ⟨library, .parsed n call unit⟩,
        ⟨library, .indexDisposed n⟩]
  | heldUnit {h call uses} : h ∈ held → h.unit = n →
      Life held n (⟨h.library, .parsed h.index call (some n)⟩ :: List.replicate uses ⟨h.library, .unitUsed n⟩)
  | goneUnit {library index call uses} : (∀ h ∈ held, h.unit ≠ n) →
      Life held n (⟨library, .parsed index call (some n)⟩ ::
        (List.replicate uses ⟨library, .unitUsed n⟩ ++ [⟨library, .unitDisposed n⟩]))

/-- Only what is held under the handle's own number bears on its life. -/
theorem Life.transfer {held other : List Holding} {n : Nat} {entries : List Entry}
    (life : Life held n entries)
    (same : ∀ h : Holding, h.index = n ∨ h.unit = n → (h ∈ held ↔ h ∈ other)) : Life other n entries := by
  cases life with
  | unused => exact .unused
  | loan => exact .loan
  | @heldIndex h _ _ _ member index => exact .heldIndex ((same h (Or.inl index)).mp member) index
  | goneIndex gone =>
    exact .goneIndex fun h member index => gone h ((same h (Or.inl index)).mpr member) index
  | @heldUnit h _ _ member unit => exact .heldUnit ((same h (Or.inr unit)).mp member) unit
  | goneUnit gone => exact .goneUnit fun h member unit => gone h ((same h (Or.inr unit)).mpr member) unit

/-- What was lent is given back once. -/
theorem Life.of_lent {held : List Holding} {n library : Nat} {loan : Loan} {entries : List Entry}
    (life : Life held n entries) (lent : ⟨library, .lent loan n⟩ ∈ entries) :
    entries = [⟨library, .lent loan n⟩, ⟨library, .returned loan n⟩] := by
  cases life with
  | loan =>
    simp only [List.mem_cons, Entry.mk.injEq, Event.lent.injEq, List.not_mem_nil, or_false] at lent
    rcases lent with ⟨rfl, rfl, _⟩ | ⟨_, other⟩
    · rfl
    · exact nomatch other
  | _ => simp at lent

/-- The two lives of an index: the unit made with it is held, or the index is gone. -/
theorem Life.of_created {held : List Holding} {n library exclude display : Nat} {entries : List Entry}
    (life : Life held n entries)
    (created : ⟨library, .indexCreated exclude display (some n)⟩ ∈ entries) :
    (∃ h ∈ held, h.library = library ∧ h.index = n ∧ ∃ call, entries =
        [⟨library, .indexCreated exclude display (some n)⟩, ⟨library, .parsed n call (some h.unit)⟩]) ∨
      ((∀ h ∈ held, h.index ≠ n) ∧ ∃ call unit, entries =
        [⟨library, .indexCreated exclude display (some n)⟩, ⟨library, .parsed n call unit⟩,
          ⟨library, .indexDisposed n⟩]) := by
  cases life with
  | @heldIndex h _ _ call member index =>
    simp only [List.mem_cons, Entry.mk.injEq, Event.indexCreated.injEq, reduceCtorEq, and_false,
      List.not_mem_nil, or_false] at created
    obtain ⟨rfl, rfl, rfl, _⟩ := created
    exact Or.inl ⟨h, member, rfl, index, call, rfl⟩
  | @goneIndex _ _ _ call unit gone =>
    simp only [List.mem_cons, Entry.mk.injEq, Event.indexCreated.injEq, reduceCtorEq, and_false,
      List.not_mem_nil, or_false] at created
    obtain ⟨rfl, rfl, rfl, _⟩ := created
    exact Or.inr ⟨gone, call, unit, rfl⟩
  | _ => simp at created

/-- The two lives of a unit: it is held, or it was disposed of and not touched since. -/
theorem Life.of_parsed {held : List Holding} {n library index : Nat} {call : ParseCall} {entries : List Entry}
    (life : Life held n entries) (different : index ≠ n)
    (parsed : ⟨library, .parsed index call (some n)⟩ ∈ entries) :
    (⟨library, index, n⟩ ∈ held ∧ ∃ uses, entries =
        ⟨library, .parsed index call (some n)⟩ :: List.replicate uses ⟨library, .unitUsed n⟩) ∨
      ((∀ h ∈ held, h.unit ≠ n) ∧ ∃ uses, entries =
        ⟨library, .parsed index call (some n)⟩ ::
          (List.replicate uses ⟨library, .unitUsed n⟩ ++ [⟨library, .unitDisposed n⟩])) := by
  cases life with
  | @heldUnit h _ uses member unit =>
    simp only [List.mem_cons, Entry.mk.injEq, Event.parsed.injEq, List.mem_replicate, reduceCtorEq,
      and_false, or_false] at parsed
    obtain ⟨rfl, rfl, rfl, _⟩ := parsed
    subst unit
    exact Or.inl ⟨member, uses, rfl⟩
  | @goneUnit _ _ _ uses gone =>
    simp only [List.mem_cons, Entry.mk.injEq, Event.parsed.injEq, List.mem_append, List.mem_replicate,
      reduceCtorEq, and_false, List.not_mem_nil, or_false] at parsed
    obtain ⟨rfl, rfl, rfl, _⟩ := parsed
    exact Or.inr ⟨gone, uses, rfl⟩
  | heldIndex _ index | goneIndex _ =>
    simp only [List.mem_cons, Entry.mk.injEq, Event.parsed.injEq, reduceCtorEq, and_false,
      List.not_mem_nil, or_false, false_or] at parsed
    exact absurd parsed.2.1 different
  | _ => simp at parsed

end ClangAccess
