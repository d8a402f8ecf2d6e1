import ClangAccess.Proofs.Lifetime

namespace ClangAccess

/-- Everything that was lent has been given back. -/
def Settled (entries : List Entry) : Prop :=
  ∀ library loan n, ⟨library, .lent loan n⟩ ∈ entries → ⟨library, .returned loan n⟩ ∈ entries

/-- Whether an event disposes of a unit or an index. -/
def Event.disposes : Event → Bool
  | .unitDisposed _ | .indexDisposed _ => true
  | _ => false

/-- Each disposal finds everything settled. -/
def SettledAtDisposals (entries : List Entry) : Prop :=
  ∀ before after e, entries = before ++ e :: after → e.event.disposes = true → Settled before

/-- Each unit that is disposed of was handed back before, and its own index follows it at once. -/
def DisposedTogether (entries : List Entry) : Prop :=
  ∀ before after library unit, entries = before ++ ⟨library, .unitDisposed unit⟩ :: after →
    ∃ index call rest, ⟨library, .parsed index call (some unit)⟩ ∈ before ∧
      after = ⟨library, .indexDisposed index⟩ :: rest

/-- A place in two lists one after the other is a place in the first or in the second. -/
theorem append_eq_before_after {α : Type} {first second before after : List α} {e : α}
    (split : first ++ second = before ++ e :: after) :
    (∃ middle, first = before ++ e :: middle ∧ after = middle ++ second) ∨
      ∃ middle, before = first ++ middle ∧ second = middle ++ e :: after := by
  rcases List.append_eq_append_iff.mp split with ⟨middle, atBefore, atSecond⟩ | ⟨middle, atFirst, atAfter⟩
  · exact Or.inr ⟨middle, atBefore, atSecond⟩
  · cases middle with
    | nil => exact Or.inr ⟨[], by simpa using atFirst.symm, by simpa using atAfter.symm⟩
    | cons head middle =>
      rw [List.cons_append, List.cons.injEq] at atAfter
      obtain ⟨rfl, atAfter⟩ := atAfter
      exact Or.inl ⟨middle, atFirst, atAfter⟩

/-- Entries without loans of their own leave things settled. -/
theorem Settled.append {entries more : List Entry} (settled : Settled entries)
    (noLoan : ∀ library loan n, ⟨library, .lent loan n⟩ ∉ more) : Settled (entries ++ more) := by
  intro library loan n lent
  rcases List.mem_append.mp lent with before | late
  · exact List.mem_append_left _ (settled library loan n before)
  · exact absurd late (noLoan library loan n)

theorem SettledAtDisposals.append {entries more : List Entry} (settled : SettledAtDisposals entries)
    (rest : ∀ before after e, more = before ++ e :: after → e.event.disposes = true →
      Settled (entries ++ before)) : SettledAtDisposals (entries ++ more) := by
  intro before after e split disposes
  rcases append_eq_before_after split with ⟨middle, earlier, _⟩ | ⟨middle, rfl, later⟩
  · exact settled before middle e earlier disposes
  · exact rest middle after e later disposes

theorem DisposedTogether.append {entries more : List Entry} (together : DisposedTogether entries)
    (rest : ∀ before after library unit, more = before ++ ⟨library, .unitDisposed unit⟩ :: after →
      ∃ index call rest, ⟨library, .parsed index call (some unit)⟩ ∈ entries ++ before ∧
        after = ⟨library, .indexDisposed index⟩ :: rest) : DisposedTogether (entries ++ more) := by
  intro before after library unit split
  rcases append_eq_before_after split with ⟨middle, earlier, rfl⟩ | ⟨middle, rfl, later⟩
  · obtain ⟨index, call, tail, parsed, rfl⟩ := together before middle library unit earlier
    exact ⟨index, call, tail ++ more, parsed, rfl⟩
  · exact rest middle after library unit later

/-- The index and the unit are entered as made with each other. -/
def Holding.OnRecord (h : Holding) (entries : List Entry) : Prop :=
  (∃ exclude display, ⟨h.library, .indexCreated exclude display (some h.index)⟩ ∈ entries) ∧
    ∃ call, ⟨h.library, .parsed h.index call (some h.unit)⟩ ∈ entries

/-- The books are in order while some indices and units are held: every handle has a number of its own and
one of the lives there are, and what is held is on record. -/
structure Accounted (entries : List Entry) (held : List Holding) : Prop where
  numbered : ∀ e ∈ entries, ∀ n ∈ e.event.handles, n < entries.length
  lives : ∀ n, Life held n (trail entries n)
  apart : ∀ library index call unit, ⟨library, .parsed index call (some unit)⟩ ∈ entries → index ≠ unit
  onRecord : ∀ h ∈ held, h.OnRecord entries
  together : DisposedTogether entries
  atDisposals : SettledAtDisposals entries

namespace Accounted

theorem start : Accounted [] [] where
  numbered := by simp
  lives := fun _ => .unused
  apart := by simp
  onRecord := by simp
  together := by simp [DisposedTogether]
  atDisposals := by simp [SettledAtDisposals]

variable {entries more : List Entry} {held other : List Holding}

/-- What has to be seen of some more entries so that the books stay in order. -/
theorem grow (books : Accounted entries held)
    (numbered : ∀ e ∈ more, ∀ n ∈ e.event.handles, n < entries.length + more.length)
    (lives : ∀ n, Life other n (trail entries n ++ trail more n))
    (apart : ∀ library index call unit, ⟨library, .parsed index call (some unit)⟩ ∈ more → index ≠ unit)
    (onRecord : ∀ h ∈ other, h ∈ held ∨ h.OnRecord more)
    (together : ∀ before after library unit, more = before ++ ⟨library, .unitDisposed unit⟩ :: after →
      ∃ index call rest, ⟨library, .parsed index call (some unit)⟩ ∈ entries ++ before ∧
        after = ⟨library, .indexDisposed index⟩ :: rest)
    (atDisposals : ∀ before after e, more = before ++ e :: after → e.event.disposes = true →
      Settled (entries ++ before)) : Accounted (entries ++ more) other where
  numbered := by
    intro e member n handle
    rw [List.length_append]
    rcases List.mem_append.mp member with before | late
    · have bound := books.numbered e before n handle
      omega
    · exact numbered e late n handle
  lives := by
    intro n
    rw [trail_append]
    exact lives n
  apart := by
    intro library index call unit parsed
    rcases List.mem_append.mp parsed with before | late
    · exact books.apart library index call unit before
    · exact apart library index call unit late
  onRecord := by
    intro h member
    rcases onRecord h member with old | ⟨⟨exclude, display, created⟩, call, parsed⟩
    · obtain ⟨⟨exclude, display, created⟩, call, parsed⟩ := books.onRecord h old
      exact ⟨⟨exclude, display, List.mem_append_left _ created⟩, call, List.mem_append_left _ parsed⟩
    · exact ⟨⟨exclude, display, List.mem_append_right _ created⟩, call, List.mem_append_right _ parsed⟩
  together := books.together.append together
  atDisposals := books.atDisposals.append atDisposals

/-- Entries that dispose of nothing cannot dispose of it wrongly. -/
theorem grow_quiet (books : Accounted entries held)
    (numbered : ∀ e ∈ more, ∀ n ∈ e.event.handles, n < entries.length + more.length)
    (lives : ∀ n, Life other n (trail entries n ++ trail more n))
    (apart : ∀ library index call unit, ⟨library, .parsed index call (some unit)⟩ ∈ more → index ≠ unit)
    (onRecord : ∀ h ∈ other, h ∈ held ∨ h.OnRecord more)
    (quiet : ∀ e ∈ more, e.event.disposes = false) : Accounted (entries ++ more) other := by
  refine books.grow numbered lives apart onRecord ?_ ?_
  · intro before after library unit split
    have none := quiet ⟨library, .unitDisposed unit⟩ (by simp [split])
    simp [Event.disposes] at none
  · intro before after e split disposes
    have none := quiet e (by simp [split])
    simp [none] at disposes

/-- A number that is still free has no trail. -/
theorem trail_fresh (books : Accounted entries held) {n : Nat} (free : entries.length ≤ n) :
    trail entries n = [] := by
  rw [List.eq_nil_iff_forall_not_mem]
  intro e member
  obtain ⟨member, handle⟩ := mem_trail.mp member
  exact absurd (books.numbered e member n handle) (by omega)

theorem trail_lent (books : Accounted entries held) {library n : Nat} {loan : Loan}
    (lent : ⟨library, .lent loan n⟩ ∈ entries) :
    trail entries n = [⟨library, .lent loan n⟩, ⟨library, .returned loan n⟩] :=
  (books.lives n).of_lent (mem_trail.mpr ⟨lent, by simp [Event.handles]⟩)

theorem settled (books : Accounted entries held) : Settled entries := by
  intro library loan n lent
  have returned : ⟨library, .returned loan n⟩ ∈ trail entries n := by simp [books.trail_lent lent]
  exact (mem_trail.mp returned).1

theorem index_lt (books : Accounted entries held) {h : Holding} (member : h ∈ held) :
    h.index < entries.length := by
  obtain ⟨⟨_, _, created⟩, _⟩ := books.onRecord h member
  exact books.numbered _ created _ (by simp [Event.handles])

theorem unit_lt (books : Accounted entries held) {h : Holding} (member : h ∈ held) :
    h.unit < entries.length := by
  obtain ⟨_, _, parsed⟩ := books.onRecord h member
  exact books.numbered _ parsed _ (by simp [Event.handles])

theorem trail_index (books : Accounted entries held) {h : Holding} (member : h ∈ held) :
    ∃ exclude display call, trail entries h.index =
      [⟨h.library, .indexCreated exclude display (some h.index)⟩,
        ⟨h.library, .parsed h.index call (some h.unit)⟩] := by
  obtain ⟨⟨exclude, display, created⟩, call, parsed⟩ := books.onRecord h member
  have inTrail : ⟨h.library, .parsed h.index call (some h.unit)⟩ ∈ trail entries h.index :=
    mem_trail.mpr ⟨parsed, by simp [Event.handles]⟩
  rcases (books.lives h.index).of_created (mem_trail.mpr ⟨created, by simp [Event.handles]⟩) with
    ⟨_, _, _, _, call', whole⟩ | ⟨gone, _⟩
  · rw [whole] at inTrail ⊢
    simp only [List.mem_cons, Entry.mk.injEq, reduceCtorEq, and_false, Event.parsed.injEq, true_and,
      Option.some.injEq, List.not_mem_nil, or_false, false_or] at inTrail
    exact ⟨exclude, display, call', by rw [inTrail.2]⟩
  · exact absurd rfl (gone h member)

theorem trail_unit (books : Accounted entries held) {h : Holding} (member : h ∈ held) :
    ∃ call uses, trail entries h.unit =
      ⟨h.library, .parsed h.index call (some h.unit)⟩ ::
        List.replicate uses ⟨h.library, .unitUsed h.unit⟩ := by
  obtain ⟨_, call, parsed⟩ := books.onRecord h member
  rcases (books.lives h.unit).of_parsed (books.apart _ _ _ _ parsed)
    (mem_trail.mpr ⟨parsed, by simp [Event.handles]⟩) with ⟨_, uses, whole⟩ | ⟨gone, _⟩
  · exact ⟨call, uses, whole⟩
  · exact absurd rfl (gone h member)

theorem eq_of_index (books : Accounted entries held) {h h' : Holding} (member : h ∈ held)
    (also : h' ∈ held) (same : h'.index = h.index) : h' = h := by
  obtain ⟨_, _, _, whole⟩ := books.trail_index member
  obtain ⟨_, _, _, again⟩ := books.trail_index also
  rw [same, whole] at again
  simp only [List.cons.injEq, Entry.mk.injEq, Event.parsed.injEq, Option.some.injEq] at again
  obtain ⟨⟨library, _⟩, ⟨_, _, _, unit⟩, _⟩ := again
  cases h
  cases h'
  simp_all

theorem eq_of_unit (books : Accounted entries held) {h h' : Holding} (member : h ∈ held)
    (also : h' ∈ held) (same : h'.unit = h.unit) : h' = h := by
  obtain ⟨_, _, whole⟩ := books.trail_unit member
  obtain ⟨_, _, again⟩ := books.trail_unit also
  rw [same, whole] at again
  simp only [List.cons.injEq, Entry.mk.injEq, Event.parsed.injEq] at again
  obtain ⟨⟨library, index, _⟩, _⟩ := again
  cases h
  cases h'
  simp_all

/-- No index is the unit of something held. -/
theorem unit_ne_index (books : Accounted entries held) {h h' : Holding} (member : h ∈ held)
    (also : h' ∈ held) : h'.unit ≠ h.index := by
  intro same
  obtain ⟨_, _, _, whole⟩ := books.trail_index member
  obtain ⟨_, _, again⟩ := books.trail_unit also
  rw [same, whole] at again
  simp at again

/-- Looking at a unit that is held leaves the books in order. -/
theorem tidy (books : Accounted entries held) {h : Holding} (member : h ∈ held)
    (tidy : Tidy h.library h.unit entries.length more) : Accounted (entries ++ more) held := by
  have older := books.unit_lt member
  refine books.grow_quiet ?_ ?_ ?_ (fun _ => Or.inl) ?_
  · intro e late n handle
    rcases tidy.mem late with rfl | ⟨loan, number, _, upper, rfl | rfl⟩ <;>
      simp only [Event.handles, List.mem_singleton] at handle <;> omega
  · intro n
    by_cases same : n = h.unit
    · subst same
      obtain ⟨call, uses, whole⟩ := books.trail_unit member
      obtain ⟨more, used⟩ := tidy.trail_unit older
      rw [whole, used, List.cons_append, List.replicate_append_replicate]
      exact .heldUnit member rfl
    by_cases old : n < entries.length
    · rw [tidy.trail_outside same (Or.inl old), List.append_nil]
      exact books.lives n
    · rw [books.trail_fresh (by omega), List.nil_append]
      rcases tidy.trail_loan older (Nat.not_lt.mp old) with none | ⟨loan, both⟩
      · rw [none]
        exact .unused
      · rw [both]
        exact .loan
  · intro library index call unit parsed
    rcases tidy.mem parsed with strange | ⟨_, _, _, _, strange | strange⟩ <;> simp at strange
  · intro e late
    rcases tidy.mem late with rfl | ⟨_, _, _, _, rfl | rfl⟩ <;> rfl

/-- Through entries that borrow nothing everything stays settled. -/
theorem settled_through (books : Accounted entries held)
    (unlent : ∀ library loan n, ⟨library, .lent loan n⟩ ∉ more) (before after : List Entry) (e : Entry)
    (split : more = before ++ e :: after) : Settled (entries ++ before) :=
  books.settled.append fun library loan n lent =>
    unlent library loan n (split ▸ List.mem_append_left (e :: after) lent)

/-- A refused index is no handle. -/
theorem noIndex (books : Accounted entries held) (library exclude display : Nat) :
    Accounted (entries ++ [⟨library, .indexCreated exclude display none⟩]) held := by
  refine books.grow_quiet ?_ ?_ ?_ (fun _ => Or.inl) ?_
  · simp [Event.handles]
  · intro n
    rw [trail_cons, if_neg (by simp [Event.handles]), trail_nil, List.append_nil]
    exact books.lives n
  · simp
  · simp [Event.disposes]

/-- An index for which no unit came back is disposed of. -/
theorem noUnit (books : Accounted entries held) (library exclude display : Nat) (call : ParseCall) :
    Accounted (entries ++ [⟨library, .indexCreated exclude display (some entries.length)⟩,
      ⟨library, .parsed entries.length call none⟩, ⟨library, .indexDisposed entries.length⟩]) held := by
  refine books.grow ?_ ?_ ?_ (fun _ => Or.inl) ?_ ?_
  · simp [Event.handles]
  · intro n
    by_cases own : n = entries.length
    · subst own
      rw [books.trail_fresh (Nat.le_refl _)]
      simp only [trail_cons, Event.handles, Option.toList, List.mem_singleton, if_true, trail_nil, List.nil_append]
      exact .goneIndex fun h member => Nat.ne_of_lt (books.index_lt member)
    · simp only [trail_cons, Event.handles, Option.toList, List.mem_singleton, own, if_false, trail_nil,
        List.append_nil]
      exact books.lives n
  · simp
  · intro before after library unit split
    have late := split.symm ▸ List.mem_append_right before (List.mem_cons_self ..)
    simp at late
  · exact fun before after e split _ => books.settled_through (by simp) before after e split

theorem lives_opened (books : Accounted entries held) (library exclude display : Nat) (call : ParseCall) (n : Nat) :
    Life (⟨library, entries.length, entries.length + 1⟩ :: held) n (trail entries n ++
      trail [⟨library, .indexCreated exclude display (some entries.length)⟩,
        ⟨library, .parsed entries.length call (some (entries.length + 1))⟩] n) := by
  rw [trail_request _ _ _ _ _ (Nat.ne_of_lt (Nat.lt_succ_self _))]
  by_cases index : n = entries.length
  · subst index
    rw [books.trail_fresh (Nat.le_refl _), if_pos rfl]
    exact .heldIndex (List.mem_cons_self ..) rfl
  by_cases unit : n = entries.length + 1
  · subst unit
    rw [books.trail_fresh (Nat.le_add_right ..), if_neg index, if_pos rfl]
    -- the unit is held from its first moment, when nobody has used it yet
    have unused := List.replicate_zero (a := (⟨library, .unitUsed (entries.length + 1)⟩ : Entry))
    rw [List.nil_append, ← unused]
    exact .heldUnit (List.mem_cons_self ..) rfl
  · rw [if_neg index, if_neg unit, List.append_nil]
    refine (books.lives n).transfer fun h own => ?_
    have different : h ≠ ⟨library, entries.length, entries.length + 1⟩ := by
      rintro rfl
      simp only at own
      omega
    simp only [List.mem_cons, different, false_or]

/-- An index and a unit that came back are held from then on. -/
theorem opened (books : Accounted entries held) (library exclude display : Nat) (call : ParseCall) :
    Accounted (entries ++ [⟨library, .indexCreated exclude display (some entries.length)⟩,
        ⟨library, .parsed entries.length call (some (entries.length + 1))⟩])
      (⟨library, entries.length, entries.length + 1⟩ :: held) := by
  refine books.grow_quiet ?_ ?_ ?_ ?_ ?_
  · simp [Event.handles]
  · exact books.lives_opened library exclude display call
  · simp only [List.mem_cons, Entry.mk.injEq, Event.parsed.injEq, Option.some.injEq, reduceCtorEq, and_false,
      List.not_mem_nil, or_false, false_or]
    omega
  · intro h member
    rcases List.mem_cons.mp member with rfl | old
    · exact Or.inr ⟨⟨exclude, display, by simp⟩, call, by simp⟩
    · exact Or.inl old
  · simp [Event.disposes]

theorem lives_released (books : Accounted entries held) {h : Holding} (member : h ∈ held)
    (rest : ∀ h', h' ∈ other ↔ h' ≠ h ∧ h' ∈ held) (n : Nat) :
    Life other n (trail entries n ++
      trail [⟨h.library, .unitDisposed h.unit⟩, ⟨h.library, .indexDisposed h.index⟩] n) := by
  have apart := books.unit_ne_index member member
  rw [trail_release _ _ apart.symm]
  by_cases index : n = h.index
  · subst index
    obtain ⟨exclude, display, call, whole⟩ := books.trail_index member
    rw [whole, if_pos rfl]
    exact .goneIndex fun h' left same =>
      ((rest h').mp left).1 (books.eq_of_index member ((rest h').mp left).2 same)
  by_cases unit : n = h.unit
  · subst unit
    obtain ⟨call, uses, whole⟩ := books.trail_unit member
    rw [whole, if_neg index, if_pos rfl]
    exact .goneUnit fun h' left same =>
      ((rest h').mp left).1 (books.eq_of_unit member ((rest h').mp left).2 same)
  · rw [if_neg index, if_neg unit, List.append_nil]
    refine (books.lives n).transfer fun h' own => ?_
    have different : h' ≠ h := by
      rintro rfl
      omega
    rw [rest]
    simp only [different, ne_eq, not_false_eq_true, true_and]

/-- A unit and its index are disposed of and held no more. -/
theorem released (books : Accounted entries held) {h : Holding} (member : h ∈ held)
    (rest : ∀ h', h' ∈ other ↔ h' ≠ h ∧ h' ∈ held) :
    Accounted (entries ++ [⟨h.library, .unitDisposed h.unit⟩, ⟨h.library, .indexDisposed h.index⟩]) other := by
  have indexBound := books.index_lt member
  have unitBound := books.unit_lt member
  refine books.grow ?_ ?_ ?_ ?_ ?_ ?_
  · simp only [List.mem_cons, List.not_mem_nil, or_false, List.length_cons, List.length_nil]
    rintro e (rfl | rfl) n handle <;> simp only [Event.handles, List.mem_singleton] at handle <;> omega
  · exact books.lives_released member rest
  · simp
  · exact fun h' left => Or.inl ((rest h').mp left).2
  · intro before after library unit split
    obtain ⟨_, call, parsed⟩ := books.onRecord h member
    rcases before with _ | ⟨first, before⟩
    · simp only [List.nil_append, List.cons.injEq, Entry.mk.injEq, Event.unitDisposed.injEq] at split
      obtain ⟨⟨rfl, rfl⟩, rfl⟩ := split
      exact ⟨h.index, call, [], List.mem_append_left _ parsed, rfl⟩
    · have late : (⟨library, .unitDisposed unit⟩ : Entry) ∈ [⟨h.library, .indexDisposed h.index⟩] := by
        rw [(List.cons.inj split).2]
        simp
      simp at late
  · exact fun before after e split _ => books.settled_through (by simp) before after e split

end Accounted

end ClangAccess
