import ClangAccess.Session

namespace ClangAccess

/-- Entries, the first of them at position `first`, that use one unit and give every loan back. What is
done with a loan stands between the two ends of it. -/
inductive Tidy (library unit : Nat) : Nat → List Entry → Prop
  | nil {first} : Tidy library unit first []
  | used {first rest} : Tidy library unit (first + 1) rest →
      Tidy library unit first (⟨library, .unitUsed unit⟩ :: rest)
  | borrowed {first loan inner rest} : Tidy library unit (first + 1) inner →
      Tidy library unit (first + inner.length + 2) rest →
      Tidy library unit first
        (⟨library, .lent loan first⟩ :: (inner ++ ⟨library, .returned loan first⟩ :: rest))

theorem Tidy.append {library unit first : Nat} {entries more : List Entry}
    (tidy : Tidy library unit first entries) (after : Tidy library unit (first + entries.length) more) :
    Tidy library unit first (entries ++ more) := by
  induction tidy with
  | nil => simpa using after
  | used _ ih =>
    refine .used (ih ?_)
    rwa [show ∀ a b : Nat, a + 1 + b = a + (b + 1) by omega]
  | @borrowed first loan inner rest inside _ _ ih =>
    rw [List.cons_append, List.append_assoc, List.cons_append]
    refine .borrowed inside (ih ?_)
    simp only [List.length_cons, List.length_append] at after
    rwa [show first + inner.length + 2 + rest.length = first + (inner.length + (rest.length + 1) + 1) by omega]

theorem Tidy.single {library unit first : Nat} : Tidy library unit first [⟨library, .unitUsed unit⟩] :=
  .used .nil

/-- One loan with some work inside it. -/
theorem Tidy.around {library unit first : Nat} {inner : List Entry} (loan : Loan)
    (inside : Tidy library unit (first + 1) inner) :
    Tidy library unit first
      (⟨library, .lent loan first⟩ :: (inner ++ [⟨library, .returned loan first⟩])) :=
  .borrowed inside .nil

/-- Work that ends in `value` whatever the ledger holds, and enters nothing but tidy uses of one unit. -/
def Usage.Clean {α : Type} (work : Usage α) (library unit : Nat) (value : α) : Prop :=
  ∀ ledger : Ledger, ∃ later : Ledger, ∃ entries, work.run ledger = (value, later) ∧
    later.toList = ledger.toList ++ entries ∧ Tidy library unit ledger.size entries

namespace Usage.Clean

variable {α β : Type} {library unit : Nat}

theorem pure (value : α) : Clean (Pure.pure value) library unit value := by
  intro ledger
  exact ⟨ledger, [], rfl, (List.append_nil _).symm, .nil⟩

theorem bind {work : Usage α} {next : α → Usage β} {value : α} {result : β}
    (first : work.Clean library unit value) (second : (next value).Clean library unit result) :
    (work >>= next).Clean library unit result := by
  intro ledger
  obtain ⟨middle, entries, run, grown, tidy⟩ := first ledger
  obtain ⟨later, more, rerun, regrown, tidier⟩ := second middle
  have size : middle.size = ledger.size + entries.length := by
    simpa using congrArg List.length grown
  rw [size] at tidier
  refine ⟨later, entries ++ more, ?_, ?_, tidy.append tidier⟩
  · rw [StateT.run_bind, run]
    exact rerun
  · rw [regrown, grown, List.append_assoc]

theorem map {work : Usage α} {value : α} (f : α → β) (first : work.Clean library unit value) :
    (f <$> work).Clean library unit (f value) := by
  rw [map_eq_pure_bind]
  exact first.bind (pure _)

theorem mapM {items : List α} {work : α → Usage β} {value : α → β}
    (each : ∀ item ∈ items, (work item).Clean library unit (value item)) :
    (items.mapM work).Clean library unit (items.map value) := by
  induction items with
  | nil => exact pure _
  | cons item rest ih =>
    rw [List.mapM_cons]
    refine (each item (List.mem_cons_self ..)).bind (bind (ih fun i member => ?_) (pure _))
    exact each i (List.mem_cons_of_mem _ member)

/-- To work on as many items as there are, each by its index, is to work on each item once and in order. -/
theorem indexed {γ : Type} {items : List γ} (absent : γ) {work : Nat → Usage β} {value : γ → β}
    (each : ∀ i, (work i).Clean library unit (value (items.getD i absent))) :
    ((List.range items.length).mapM work).Clean library unit (items.map value) := by
  have visited : (List.range items.length).map (fun i => value (items.getD i absent)) = items.map value := by
    refine List.ext_getElem (by simp) fun i _ within => ?_
    have there : i < items.length := by simpa using within
    simp [there]
  rw [← visited]
  exact mapM fun i _ => each i

theorem touch (l : Library) : (l.touch unit).Clean l.number unit () := by
  intro ledger
  exact ⟨_, [⟨l.number, .unitUsed unit⟩], rfl, Array.toList_push, .single⟩

/-- To borrow something, work with it and give it back is clean if the work is. -/
theorem borrow (l : Library) (loan : Loan) {work : Usage α} {value : α}
    (inside : work.Clean l.number unit value) :
    (do let number ← l.lend loan
        let a ← work
        l.takeBack loan number
        return a).Clean l.number unit value := by
  intro ledger
  obtain ⟨middle, inner, run, grown, tidy⟩ := inside (ledger.push ⟨l.number, .lent loan ledger.size⟩)
  rw [Array.size_push] at tidy
  refine ⟨middle.push ⟨l.number, .returned loan ledger.size⟩, _, ?_, ?_, tidy.around loan⟩
  · change (work >>= fun a => do l.takeBack loan ledger.size; return a).run
      (ledger.push ⟨l.number, .lent loan ledger.size⟩) = _
    rw [StateT.run_bind, run]
    rfl
  · simp [grown]

theorem takeText (l : Library) (text : ForeignText) :
    (l.takeText text).Clean l.number unit text.decoded := by
  have loan : Clean _ l.number unit () := borrow l .text (pure ())
  simpa only [Library.takeText, map_bind, map_pure, pure_bind] using loan.map fun _ => text.decoded

theorem takePlace (l : Library) (place : Option ForeignPlace) :
    (l.takePlace place).Clean l.number unit (place.map ForeignPlace.decoded) := by
  cases place with
  | none => exact pure none
  | some p => exact (takeText l p.file).bind (pure _)

end Usage.Clean

/-- A suggested edit as a caller gets it. -/
def ForeignFixIt.decoded (f : ForeignFixIt) : FixIt :=
  ⟨Library.rangeOf? (f.first.map ForeignPlace.decoded) (f.last.map ForeignPlace.decoded), f.replacement.decoded⟩

/-- A diagnostic as a caller gets it. -/
def ForeignDiagnostic.decoded (d : ForeignDiagnostic) : Diagnostic :=
  ⟨Library.severity d.severity, d.message.decoded, d.place.map ForeignPlace.decoded,
    d.fixits.map ForeignFixIt.decoded⟩

namespace Usage.Clean

variable {library unit : Nat}

theorem takeFixIt (l : Library) (f : ForeignFixIt) :
    (l.takeFixIt f).Clean l.number unit f.decoded :=
  (takeText l f.replacement).bind ((takePlace l f.first).bind ((takePlace l f.last).bind (pure _)))

theorem takeDiagnostic (l : Library) (d : ForeignDiagnostic) :
    (l.takeDiagnostic d).Clean l.number unit d.decoded := by
  have fixits : ((List.range d.fixits.length).mapM fun i => l.takeFixIt (d.fixits.getD i .null)).Clean l.number unit
      (d.fixits.map ForeignFixIt.decoded) :=
    indexed .null fun i => takeFixIt l (d.fixits.getD i .null)
  exact (takeText l d.message).bind <| (takePlace l d.place).bind <| fixits.bind (pure _)

theorem takeDiagnostics (l : Library) (diagnostics : List ForeignDiagnostic) :
    (l.takeDiagnostics unit diagnostics).Clean l.number unit (diagnostics.map ForeignDiagnostic.decoded) := by
  have count : (l.diagnosticCount unit diagnostics).Clean l.number unit diagnostics.length :=
    (touch l).bind (pure _)
  refine count.bind (indexed .null fun i => ?_)
  simp only [Library.lendDiagnostic, bind_assoc, pure_bind]
  exact (touch l).bind (borrow l .diagnostic (takeDiagnostic l (diagnostics.getD i .null)))

end Usage.Clean

/-- A visitor that passes by every node sees the siblings in their order and nothing below them. -/
theorem ForeignNode.visit_pass (nodes : List ForeignNode) (seen : Array ForeignNode) :
    ForeignNode.visit (fun seen n => (.pass, seen.push n)) seen nodes = (false, seen ++ nodes) := by
  induction nodes generalizing seen with
  | nil => simp [ForeignNode.visit]
  | cons n rest ih =>
    obtain ⟨kind, spelling, place, inMainFile, below⟩ := n
    simp only [ForeignNode.visit]
    rw [ih]
    simp

namespace Usage.Clean

theorem kind (e : Entity) : e.kind.Clean e.library.number e.unit e.node.kind :=
  (touch e.library).bind (pure _)

theorem kindName (e : Entity) :
    e.kindName.Clean e.library.number e.unit (e.library.kindName e.node.kind).decoded :=
  (kind e).bind (takeText e.library _)

theorem spelling (e : Entity) : e.spelling.Clean e.library.number e.unit e.node.spelling.decoded :=
  (touch e.library).bind (takeText e.library _)

theorem location (e : Entity) :
    e.location.Clean e.library.number e.unit (e.node.place.map ForeignPlace.decoded) :=
  (touch e.library).bind (takePlace e.library _)

theorem isInMainFile (e : Entity) :
    e.isInMainFile.Clean e.library.number e.unit e.node.inMainFile :=
  (touch e.library).bind (pure _)

theorem children (e : Entity) :
    e.children.Clean e.library.number e.unit (e.node.children.map fun n => { e with node := n }) := by
  refine (touch e.library).bind ?_
  rw [ForeignNode.visit_pass]
  simp only [Array.toList_appendList, List.nil_append]
  exact pure _

theorem root (u : ParsedUnit) :
    u.root.Clean u.library.number u.unit ⟨u.library, u.unit, u.rootNode⟩ :=
  (touch u.library).bind (pure _)

end Usage.Clean

end ClangAccess
