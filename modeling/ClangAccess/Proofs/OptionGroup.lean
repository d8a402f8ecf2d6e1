import ClangAccess.Proofs.ClangArguments
import Mathlib.Algebra.GroupWithZero.Nat

namespace ClangAccess

/-- A value that could not be an option. -/
structure PlainWord where
  bytes : Bytes
  filled : bytes ≠ []
  undashed : bytes.head? ≠ some Token.dash
  deriving DecidableEq

def PlainWord.path (w : PlainWord) : Path := ⟨w.bytes⟩

/-- The flags that only a parse has. -/
inductive Switch where
  | incomplete
  | keepFunctionBodies
  | noDetailedRecords
  deriving DecidableEq, Repr

namespace Switch

def all : List Switch := [.incomplete, .keepFunctionBodies, .noDetailedRecords]

def opt : Switch → Opt
  | .incomplete => .incomplete
  | .keepFunctionBodies => .keepFunctionBodies
  | .noDetailedRecords => .noDetailedRecords

theorem mem_all (s : Switch) : s ∈ all := by
  cases s <;> decide

theorem opt_injective : Function.Injective opt := by
  intro s t
  cases s <;> cases t <;> decide

theorem opt_ne_directory (s : Switch) : s.opt ≠ .libclangDir := by
  cases s <;> decide

end Switch

/-- The flags that are counted. -/
inductive Counted where
  | louder
  | quieter
  deriving DecidableEq, Repr

namespace Counted

def opt : Counted → Opt
  | .louder => .verbose
  | .quieter => .quiet

def letter : Counted → Char
  | .louder => 'v'
  | .quieter => 'q'

theorem opt_injective : Function.Injective opt := by
  intro c d
  cases c <;> cases d <;> decide

theorem opt_ne_switch (s : Switch) (c : Counted) : s.opt ≠ c.opt := by
  cases s <;> cases c <;> decide

theorem opt_ne_directory (c : Counted) : c.opt ≠ .libclangDir := by
  cases c <;> decide

end Counted

/-- A counted flag is asked for by its long name, or by its letter once and some more times. -/
inductive Asking where
  | named
  | lettered (more : Nat)
  deriving DecidableEq, Repr

def Asking.times : Asking → Nat
  | .named => 1
  | .lettered more => more + 1

/-- What stands together on a command line. -/
inductive OptionGroup where
  | file (name : PlainWord)
  | switch (s : Switch)
  | directory (name : PlainWord) (attached : Bool)
  | count (c : Counted) (asking : Asking)
  deriving DecidableEq

namespace OptionGroup

def words : OptionGroup → List Bytes
  | .file name => [name.bytes]
  | .switch s => [Bytes.ofText ("--" ++ s.opt.long)]
  | .directory name true => [Bytes.ofText "--libclang-dir=" ++ name.bytes]
  | .directory name false => [Bytes.ofText "--libclang-dir", name.bytes]
  | .count c .named => [Bytes.ofText ("--" ++ c.opt.long)]
  | .count c (.lettered more) => [Token.dash :: Bytes.ofText (String.ofList (List.replicate (more + 1) c.letter))]

def opt? : OptionGroup → Option Opt
  | .file _ => none
  | .switch s => some s.opt
  | .directory .. => some .libclangDir
  | .count c _ => some c.opt

def file? : OptionGroup → Option Path
  | .file name => some name.path
  | _ => none

def directory? : OptionGroup → Option Path
  | .directory name _ => some name.path
  | _ => none

/-- How often a flag is counted. -/
def times (c : Counted) : OptionGroup → Nat
  | .count d asking => if d = c then asking.times else 0
  | _ => 0

def isCount : OptionGroup → Bool
  | .count .. => true
  | _ => false

/-- What the program knows before it is handed a command. -/
def isGlobal : OptionGroup → Bool
  | .directory .. | .count .. => true
  | _ => false

/-- What a level can be told. -/
def Fits (g : OptionGroup) (level : Level) : Prop :=
  level = .parse ∨ level = .program ∧ g.isGlobal = true

/-- Two groups may both be there: only counted flags may be repeated. -/
def Apart (g h : OptionGroup) : Prop :=
  g.opt? = h.opt? → g.isCount = true

theorem isCount_iff {g : OptionGroup} : g.isCount = true ↔ ∃ c : Counted, g.opt? = some c.opt := by
  cases g with
  | file => simp [isCount, opt?]
  | switch s => simp [isCount, opt?, Counted.opt_ne_switch]
  | directory => simp [isCount, opt?, (Counted.opt_ne_directory _).symm]
  | count c => simp [isCount, opt?]

theorem sum_times_eq_zero {flag : Counted} {gs : List OptionGroup} (silent : ∀ g ∈ gs, g.times flag = 0) :
    (gs.map (times flag)).sum = 0 :=
  List.sum_eq_zero_iff_forall_eq_nat.mpr fun n member => by
    obtain ⟨g, within, rfl⟩ := List.mem_map.mp member
    exact silent g within

theorem times_eq_zero {flag : Counted} {g : OptionGroup} (other : g.opt? ≠ some flag.opt) : g.times flag = 0 := by
  cases g with
  | file | switch | directory => rfl
  | count c => exact if_neg fun same => other (congrArg (some ∘ Counted.opt) same)

theorem opt?_eq_directory {g : OptionGroup} : g.opt? = some .libclangDir ↔ ∃ dir, g.directory? = some dir := by
  cases g with
  | file => simp [opt?, directory?]
  | switch w => simp [opt?, directory?, w.opt_ne_directory]
  | directory => simp [opt?, directory?]
  | count c => simp [opt?, directory?, c.opt_ne_directory]

theorem Apart.symm {g h : OptionGroup} (apart : g.Apart h) : h.Apart g := by
  intro same
  have counted := isCount_iff.mp (apart same.symm)
  exact isCount_iff.mpr (same ▸ counted)

end OptionGroup

theorem Token.ofArgument_long (o : Opt) :
    Token.ofArgument (Bytes.ofText ("--" ++ o.long)) = .long (Bytes.ofText o.long) none := by
  cases o <;> decide

theorem Token.ofArgument_attached (value : Bytes) :
    Token.ofArgument (Bytes.ofText "--libclang-dir=" ++ value) =
      .long (Bytes.ofText Opt.libclangDir.long) (some value) :=
  rfl

theorem Token.ofArgument_plain (w : PlainWord) : Token.ofArgument w.bytes = .plain := by
  obtain ⟨bytes, filled, undashed⟩ := w
  cases bytes with
  | nil => rfl
  | cons first rest => exact if_neg fun dashed => undashed (congrArg some dashed)

theorem Token.ofArgument_cluster (c : Counted) (more : Nat) :
    Token.ofArgument (dash :: Bytes.ofText (String.ofList (List.replicate (more + 1) c.letter))) =
      .cluster (Bytes.ofText (String.ofList (List.replicate (more + 1) c.letter))) := by
  rw [Bytes.ofText, String.toList_ofList, List.replicate_succ, List.flatMap_cons]
  cases c <;> rfl

theorem Level.ofLong?_long {level : Level} {o : Opt} (known : o ∈ level.options) : level.ofLong? o.long = some o := by
  revert known
  cases level <;> cases o <;> decide

theorem Level.ofShort?_letter {level : Level} (c : Counted) (known : c.opt ∈ level.options) :
    level.ofShort? c.letter = some c.opt := by
  revert known
  cases level <;> cases c <;> decide

theorem Level.command?_dashed {argument : Bytes} (dashed : argument.head? = some Token.dash) :
    Level.command? argument = none := by
  have letters : ∀ level ∈ commands, (Bytes.ofText level.name).head? ≠ some Token.dash := by decide
  refine List.find?_eq_none.mpr fun level member same => letters level member ?_
  rw [beq_iff_eq.mp same, dashed]

theorem Opt.dashed (o : Opt) : (Bytes.ofText ("--" ++ o.long)).head? = some Token.dash := by
  cases o <;> decide

theorem OptionGroup.Fits.known {g : OptionGroup} {level : Level} {o : Opt} (fits : g.Fits level)
    (opt : g.opt? = some o) : o ∈ level.options := by
  obtain rfl | ⟨rfl, global⟩ := fits
  · cases g with
    | file => cases opt
    | switch s => cases opt; cases s <;> decide
    | directory => cases opt; decide
    | count c => cases opt; cases c <;> decide
  · cases g with
    | file | switch => cases global
    | directory => cases opt; decide
    | count c => cases opt; cases c <;> decide

theorem OptionGroup.words_unescaped (g : OptionGroup) :
    ∀ argument ∈ g.words, Token.ofArgument argument ≠ .escape := by
  cases g with
  | file name => simp [words, Token.ofArgument_plain]
  | switch w => simp [words, Token.ofArgument_long]
  | directory name attached =>
    cases attached with
    | true => simp [words, Token.ofArgument_attached]
    | false => simpa [words, Token.ofArgument_plain] using nofun
  | count c asking =>
    cases asking with
    | named => simp [words, Token.ofArgument_long]
    | lettered more => simp [words, Token.ofArgument_cluster]

theorem OptionGroup.flatMap_words_unescaped (gs : List OptionGroup) :
    ∀ argument ∈ gs.flatMap words, Token.ofArgument argument ≠ .escape := by
  intro argument member
  obtain ⟨g, _, within⟩ := List.mem_flatMap.mp member
  exact g.words_unescaped argument within

namespace Reading

variable {a : Addressee} {r s t u : Reading} {gs : List OptionGroup} {g : OptionGroup} {c : Counted}

theorem Settles.not_awaiting (settles : Settles r s) : r.awaiting = false := by
  cases settles with
  | idle waiting | directory waiting | file waiting | clangArgs waiting => simp [awaiting, waiting]

theorem Settles.hasFile_eq (settles : Settles r s) : r.hasFile = s.file.isSome := by
  cases settles with
  | idle waiting | directory waiting | file waiting | clangArgs waiting => simp [hasFile, waiting]

theorem commandAt_dashed {argument : Bytes} (dashed : argument.head? = some Token.dash) :
    commandAt a r argument = none := by
  rw [commandAt, Level.command?_dashed dashed, ite_self]

theorem commandAt_awaiting {argument : Bytes} (awaits : r.awaiting = true) : commandAt a r argument = none := by
  simp [commandAt, awaits]

/-- How often a flag was counted at a level. -/
def counted (r : Reading) : Counted → Nat
  | .louder => r.verbose
  | .quieter => r.quiet

/-- Numbers that a counter does not tell apart. -/
def SameCount (m n : Nat) : Prop := min m countLimit = min n countLimit

/-- A counted flag has been noted some times. -/
structure Turned (c : Counted) (n : Nat) (s t : Reading) : Prop where
  pending : t.pending = s.pending
  clangArgs : t.clangArgs = s.clangArgs
  libclangDir : t.libclangDir = s.libclangDir
  file : t.file = s.file
  once : s.given.Nodup → t.given.Nodup
  given : ∀ o, o ∈ t.given ↔ o ∈ s.given ∨ c.opt = o
  counted : ∀ d, SameCount (t.counted d) (s.counted d + if c = d then n else 0)

theorem has_iff {o : Opt} : r.has o = true ↔ o ∈ r.given := List.contains_iff_mem

theorem nodup_added {o : Opt} {given : List Opt} (once : given.Nodup) (fresh : o ∉ given) : (given ++ [o]).Nodup := by
  refine List.nodup_append.mpr ⟨once, List.pairwise_singleton _ o, fun p member q same => ?_⟩
  rw [List.mem_singleton.mp same]
  rintro rfl
  exact fresh member

theorem mem_added {o p : Opt} {given : List Opt} : p ∈ given ++ [o] ↔ p ∈ given ∨ o = p := by
  rw [List.mem_append, List.mem_singleton, eq_comm (a := p)]

theorem mem_moved {o p : Opt} {given : List Opt} : p ∈ given.erase o ++ [o] ↔ p ∈ given ∨ o = p := by
  rw [mem_added]
  refine or_congr_left' fun other => ?_
  rw [List.mem_erase_of_ne (Ne.symm other)]

theorem sameCount_count (n : Nat) : SameCount (count n) (n + 1) := by
  unfold SameCount count
  omega

theorem SameCount.eq_or_full {m n : Nat} (same : SameCount m n) : m = n ∨ countLimit ≤ m ∧ countLimit ≤ n := by
  unfold SameCount at same
  omega

theorem SameCount.eq_zero {n : Nat} (same : SameCount n 0) : n = 0 := by
  obtain none | ⟨_, full⟩ := same.eq_or_full
  · exact none
  · exact absurd full (by decide)

theorem SameCount.trans_add {k l m n i : Nat} (first : SameCount l (k + m)) (next : SameCount i (l + n)) :
    SameCount i (k + (m + n)) := by
  unfold SameCount at *
  omega

theorem exists_flagged (s : Reading) (c : Counted) : ∃ t, Flagged s c.opt t ∧ Turned c 1 s t := by
  have moved : s.given.Nodup → (s.given.erase c.opt ++ [c.opt]).Nodup := fun once =>
    nodup_added (once.erase c.opt) once.not_mem_erase
  cases c with
  | louder =>
    refine ⟨_, .verbose, rfl, rfl, rfl, rfl, moved, fun _ => mem_moved, fun d => ?_⟩
    cases d with
    | louder => exact sameCount_count s.verbose
    | quieter => rfl
  | quieter =>
    refine ⟨_, .quiet, rfl, rfl, rfl, rfl, moved, fun _ => mem_moved, fun d => ?_⟩
    cases d with
    | louder => rfl
    | quieter => exact sameCount_count s.quiet

theorem Turned.trans {m n : Nat} (first : Turned c m s t) (next : Turned c n t u) : Turned c (m + n) s u where
  pending := next.pending.trans first.pending
  clangArgs := next.clangArgs.trans first.clangArgs
  libclangDir := next.libclangDir.trans first.libclangDir
  file := next.file.trans first.file
  once := next.once ∘ first.once
  given o := by rw [next.given, first.given, or_assoc, or_self]
  counted d := by
    have both := (first.counted d).trans_add (next.counted d)
    by_cases same : c = d
    · simpa only [if_pos same] using both
    · simpa only [if_neg same] using both

/-- A cluster of one letter notes its flag as often. -/
theorem exists_flaggedAll (known : c.opt ∈ a.level.options) (more : Nat) (settles : Settles r s) :
    ∃ t, FlaggedAll a r (List.replicate (more + 1) (.char c.letter)) t ∧ Turned c (more + 1) s t := by
  induction more generalizing r s with
  | zero =>
    obtain ⟨t, flagged, turned⟩ := exists_flagged s c
    exact ⟨t, .cons (Level.ofShort?_letter c known) settles flagged .nil, turned⟩
  | succ more ih =>
    obtain ⟨t, flagged, turned⟩ := exists_flagged s c
    have idle : Settles t t := .idle (turned.pending.trans settles.pending_none)
    obtain ⟨u, flags, others⟩ := ih idle
    refine ⟨u, .cons (Level.ofShort?_letter c known) settles flagged flags, ?_⟩
    rw [Nat.add_comm (more + 1)]
    exact turned.trans others

theorem pieces_lettered (c : Char) (n : Nat) :
    Utf8.pieces (Bytes.ofText (String.ofList (List.replicate n c))) = List.replicate n (.char c) := by
  rw [Bytes.ofText, Utf8.pieces_flatMap, String.toList_ofList, List.map_replicate]

/-- What is known at a level once some groups have been read there. It is a matter of members and sums, so their order
does not show in it. -/
structure Heard (gs : List OptionGroup) (s : Reading) : Prop where
  pending : s.pending = none
  clangArgs : s.clangArgs = []
  once : s.given.Nodup
  given : ∀ o, o ∈ s.given ↔ ∃ g ∈ gs, g.opt? = some o
  counted : ∀ c, SameCount (s.counted c) (gs.map (OptionGroup.times c)).sum
  directory : ∀ dir, s.libclangDir = some dir ↔ ∃ g ∈ gs, g.directory? = some dir
  file : ∀ file, s.file = some file ↔ ∃ g ∈ gs, g.file? = some file

/-- What reading one group adds to what is known. -/
structure Adds (g : OptionGroup) (s t : Reading) : Prop where
  pending : t.pending = none
  clangArgs : t.clangArgs = s.clangArgs
  once : s.given.Nodup → t.given.Nodup
  given : ∀ o, o ∈ t.given ↔ o ∈ s.given ∨ g.opt? = some o
  counted : ∀ c, SameCount (t.counted c) (s.counted c + g.times c)
  directory : ∀ dir, t.libclangDir = some dir ↔ s.libclangDir = some dir ∨ g.directory? = some dir
  file : ∀ file, t.file = some file ↔ s.file = some file ∨ g.file? = some file

namespace Adds

theorem file_name (name : PlainWord) (unfiled : s.file = none) :
    Adds (.file name) s { s with pending := none, file := some name.path } where
  pending := rfl
  clangArgs := rfl
  once := id
  given := by simp [OptionGroup.opt?]
  counted c := by cases c <;> rfl
  directory := by simp [OptionGroup.directory?]
  file := by simp [OptionGroup.file?, unfiled]

theorem switch {w : Switch} (settled : s.pending = none) (fresh : w.opt ∉ s.given) :
    Adds (.switch w) s { s with given := s.given ++ [w.opt] } where
  pending := settled
  clangArgs := rfl
  once had := nodup_added had fresh
  given _ := mem_added.trans (or_congr_right Option.some_inj.symm)
  counted c := by cases c <;> rfl
  directory := by simp [OptionGroup.directory?]
  file := by simp [OptionGroup.file?]

theorem directory_name (name : PlainWord) (attached : Bool) (fresh : .libclangDir ∉ s.given)
    (undirected : s.libclangDir = none) :
    Adds (.directory name attached) s
      { s with pending := none, given := s.given ++ [.libclangDir], libclangDir := some name.path } where
  pending := rfl
  clangArgs := rfl
  once had := nodup_added had fresh
  given _ := mem_added.trans (or_congr_right Option.some_inj.symm)
  counted c := by cases c <;> rfl
  directory := by simp [OptionGroup.directory?, undirected]
  file := by simp [OptionGroup.file?]

theorem count {asking : Asking} (settled : s.pending = none) (turned : Turned c asking.times s t) :
    Adds (.count c asking) s t where
  pending := turned.pending.trans settled
  clangArgs := turned.clangArgs
  once := turned.once
  given := by simp [turned.given, OptionGroup.opt?]
  counted := turned.counted
  directory := by simp [turned.libclangDir, OptionGroup.directory?]
  file := by simp [turned.file, OptionGroup.file?]

end Adds

theorem exists_mem_append_singleton {α : Type} {P : α → Prop} {xs : List α} {x : α} :
    (∃ y ∈ xs ++ [x], P y) ↔ (∃ y ∈ xs, P y) ∨ P x := by
  simp only [List.mem_append, List.mem_singleton, or_and_right, exists_or, exists_eq_left]

namespace Heard

theorem add (heard : Heard gs s) (adds : Adds g s t) : Heard (gs ++ [g]) t where
  pending := adds.pending
  clangArgs := adds.clangArgs.trans heard.clangArgs
  once := adds.once heard.once
  given o := by rw [adds.given, heard.given, exists_mem_append_singleton]
  counted c := by
    have sum : ((gs ++ [g]).map (OptionGroup.times c)).sum = 0 + ((gs.map (OptionGroup.times c)).sum + g.times c) := by
      simp
    rw [sum]
    exact SameCount.trans_add (by simpa using heard.counted c) (adds.counted c)
  directory dir := by rw [adds.directory, heard.directory, exists_mem_append_singleton]
  file file := by rw [adds.file, heard.file, exists_mem_append_singleton]

theorem not_mem_given {o : Opt} (heard : Heard gs s) (apart : ∀ h ∈ gs, h.Apart g) (opt : g.opt? = some o)
    (single : g.isCount = false) : o ∉ s.given := by
  intro had
  obtain ⟨h, member, same⟩ := (heard.given o).mp had
  exact nomatch single.symm.trans ((apart h member).symm (opt.trans same.symm))

theorem undirected (heard : Heard gs s) (fresh : .libclangDir ∉ s.given) : s.libclangDir = none := by
  refine Option.eq_none_iff_forall_ne_some.mpr fun dir had => fresh ?_
  obtain ⟨g, member, named⟩ := (heard.directory dir).mp had
  exact (heard.given _).mpr ⟨g, member, OptionGroup.opt?_eq_directory.mpr ⟨dir, named⟩⟩

theorem unfiled {name : PlainWord} (heard : Heard gs s) (apart : ∀ h ∈ gs, h.Apart (.file name)) : s.file = none := by
  refine Option.eq_none_iff_forall_ne_some.mpr fun file had => ?_
  obtain ⟨g, member, named⟩ := (heard.file file).mp had
  cases g with
  | file => exact nomatch apart _ member rfl
  | switch | directory | count => cases named

/-- One more group is read. -/
theorem read (heard : Heard gs s) (settles : Settles r s) (apart : ∀ h ∈ gs, h.Apart g) (fits : g.Fits a.level) :
    ∃ r' s', Reads a r g.words r' none ∧ Settles r' s' ∧ Heard (gs ++ [g]) s' := by
  have known : ∀ o, g.opt? = some o → (Bytes.ofText o.long).text?.bind a.level.ofLong? = some o := fun o opt => by
    rw [Bytes.text?_ofText, Option.bind_some, Level.ofLong?_long (fits.known opt)]
  cases g with
  | file name =>
    have unfiled : s.file = none := heard.unfiled apart
    obtain level | ⟨_, global⟩ := fits
    · have free : r.hasFile = false := by rw [settles.hasFile_eq, unfiled]; rfl
      have placed : a.level.hasPositionals = true := by rw [level]; rfl
      have unnamed : commandAt a r name.bytes = none := by simp [commandAt, level]
      have taken := Takes.file (Token.ofArgument_plain name) settles.not_awaiting placed free settles
      exact ⟨_, _, .take unnamed taken .done, .file rfl name.filled, heard.add (.file_name name unfiled)⟩
    · cases global
  | switch w =>
    have fresh : w.opt ∉ s.given := heard.not_mem_given apart rfl rfl
    have once : Flagged s w.opt { s with given := s.given ++ [w.opt] } := by
      have unheard : s.has w.opt = false := Bool.eq_false_iff.mpr (fresh <| has_iff.mp ·)
      cases w with
      | incomplete | keepFunctionBodies | noDetailedRecords =>
        exact .once (by decide) (by decide) (by decide) (by decide) unheard
    have taken := Takes.flag (Token.ofArgument_long w.opt) (known _ rfl) w.opt_ne_directory settles once
    exact ⟨_, _, .take (commandAt_dashed w.opt.dashed) taken .done, .idle settles.pending_none,
      heard.add (.switch settles.pending_none fresh)⟩
  | directory name attached =>
    have fresh : .libclangDir ∉ s.given := heard.not_mem_given apart rfl rfl
    have heard := heard.add (.directory_name name attached fresh (heard.undirected fresh))
    have unheard : s.has .libclangDir = false := Bool.eq_false_iff.mpr (fresh <| has_iff.mp ·)
    cases attached with
    | true =>
      have taken := Takes.attached (Token.ofArgument_attached name.bytes) (known _ rfl) settles unheard name.filled
      rw [← settles.pending_none] at heard
      exact ⟨_, _, .take (commandAt_dashed rfl) taken .done, .idle settles.pending_none, heard⟩
    | false =>
      have begun := Takes.option (Token.ofArgument_long .libclangDir) (known _ rfl) settles
      have taken := Takes.value (a := a) (r := { s with pending := some (.libclangDir none) })
        (Token.ofArgument_plain name) rfl
      exact ⟨_, _, .take (commandAt_dashed (Opt.dashed .libclangDir)) begun
        (.take (commandAt_awaiting rfl) taken .done), .directory rfl unheard name.filled, heard⟩
  | count c asking =>
    cases asking with
    | named =>
      obtain ⟨t, flagged, turned⟩ := exists_flagged s c
      have taken := Takes.flag (Token.ofArgument_long c.opt) (known _ rfl) c.opt_ne_directory settles flagged
      exact ⟨t, t, .take (commandAt_dashed c.opt.dashed) taken .done,
        .idle (turned.pending.trans settles.pending_none), heard.add (.count settles.pending_none turned)⟩
    | lettered more =>
      obtain ⟨t, flags, turned⟩ := exists_flaggedAll (fits.known rfl) more settles
      rw [← pieces_lettered] at flags
      have taken := Takes.cluster (Token.ofArgument_cluster c more) flags
      exact ⟨t, t, .take (commandAt_dashed rfl) taken .done,
        .idle (turned.pending.trans settles.pending_none), heard.add (.count settles.pending_none turned)⟩

/-- Groups are read one after the other, in whatever order they stand. -/
theorem reads {more : List OptionGroup} (heard : Heard gs s) (settles : Settles r s)
    (apart : (gs ++ more).Pairwise OptionGroup.Apart) (fits : ∀ g ∈ more, g.Fits a.level) :
    ∃ r' s', Reads a r (more.flatMap OptionGroup.words) r' none ∧ Settles r' s' ∧ Heard (gs ++ more) s' := by
  -- on what is still to come; what has come is kept by `Heard`, and each next group is apart from all of it
  induction more generalizing gs r s with
  | nil => exact ⟨r, s, .done, settles, by rwa [List.append_nil]⟩
  | cons g more ih =>
    have before : ∀ h ∈ gs, h.Apart g := fun h member =>
      (List.pairwise_append.mp apart).2.2 h member g (List.mem_cons_self ..)
    obtain ⟨t, u, first, settles, heard⟩ := heard.read settles before (fits g (List.mem_cons_self ..))
    rw [List.append_cons] at apart
    obtain ⟨r', s', others, settles, heard⟩ :=
      ih heard settles apart fun h member => fits h (List.mem_cons_of_mem _ member)
    refine ⟨r', s', first.append g.words_unescaped others, settles, ?_⟩
    rwa [List.append_cons]

theorem exclusion?_eq_none (heard : Heard gs s) (single : .verbose ∉ s.given ∨ .quiet ∉ s.given) :
    s.exclusion? = none := by
  unfold exclusion?
  split
  · rename_i first second both
    have once : [first, second].Nodup := both ▸ heard.once.filter _
    have members : ∀ o ∈ [first, second], o ∈ s.given ∧ (o = .verbose ∨ o = .quiet) := by
      intro o member
      simpa using List.mem_filter.mp (both ▸ member : o ∈ s.given.filter fun o => o == .verbose || o == .quiet)
    obtain ⟨firstGiven, firstCounted⟩ := members first (by simp)
    obtain ⟨secondGiven, secondCounted⟩ := members second (by simp)
    have different : first ≠ second := by simpa using once
    rcases firstCounted with rfl | rfl <;> rcases secondCounted with rfl | rfl <;> simp_all
  · rfl

end Heard

/-- A level that begins with groups of which each may be there. -/
theorem exists_heard (a : Addressee) (apart : gs.Pairwise OptionGroup.Apart) (fits : ∀ g ∈ gs, g.Fits a.level) :
    ∃ r s, Reads a {} (gs.flatMap OptionGroup.words) r none ∧ Settles r s ∧ Heard gs s := by
  have nothing : Heard [] {} := ⟨rfl, rfl, .nil, by simp, fun c => by cases c <;> rfl, by simp, by simp⟩
  exact nothing.reads (.idle rfl) apart fits

end Reading

end ClangAccess
