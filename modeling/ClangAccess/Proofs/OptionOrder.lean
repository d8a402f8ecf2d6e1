import ClangAccess.Proofs.OptionGroup

namespace ClangAccess

theorem LogLevel.ofRank_far {n : Nat} (far : 5 ≤ n) : ofRank n = .trace := by
  obtain ⟨beyond, rfl⟩ := Nat.exists_eq_add_of_le' far
  rfl

open Reading in
/-- A full counter is beyond the last level on either side, so the level does not depend on how far counters go. -/
theorem Invocation.verbosity_eq_of_sameCount {v w q r : Nat} (louder : SameCount v w) (quieter : SameCount q r)
    (single : w = 0 ∨ r = 0) : verbosity v q = verbosity w r := by
  have limit : countLimit = 255 := rfl
  have info : LogLevel.info.rank = 3 := rfl
  unfold verbosity
  rcases single with rfl | rfl
  · obtain rfl : v = 0 := louder.eq_zero
    obtain rfl | ⟨full, fullToo⟩ := quieter.eq_or_full
    · rfl
    · rw [Nat.sub_eq_zero_of_le (by omega), Nat.sub_eq_zero_of_le (by omega)]
  · obtain rfl : q = 0 := quieter.eq_zero
    obtain rfl | ⟨full, fullToo⟩ := louder.eq_or_full
    · rfl
    · rw [LogLevel.ofRank_far (by omega), LogLevel.ofRank_far (by omega)]

/-- What is asked for of a parse, with a way to write each part of it. -/
structure Choice where
  file : PlainWord
  switches : Switch → Bool
  directory : Option (PlainWord × Bool)
  counted : Counted
  askings : List Asking

namespace Choice

def groups (c : Choice) : List OptionGroup :=
  .file c.file :: (Switch.all.filter c.switches).map .switch ++
    ((c.directory.map fun (name, attached) => .directory name attached).toList ++ c.askings.map (.count c.counted))

def Has (c : Choice) : OptionGroup → Prop
  | .file name => name = c.file
  | .switch w => c.switches w = true
  | .directory name attached => c.directory = some (name, attached)
  | .count flag asking => flag = c.counted ∧ asking ∈ c.askings

def times (c : Choice) (flag : Counted) : Nat := if c.counted = flag then (c.askings.map Asking.times).sum else 0

def request (c : Choice) : ParseRequest where
  file := c.file.path
  incomplete := c.switches .incomplete
  keepFunctionBodies := c.switches .keepFunctionBodies
  noDetailedRecords := c.switches .noDetailedRecords

/-- What the choice comes to, however it is written. -/
def invocation (c : Choice) : Invocation where
  logLevel := Invocation.verbosity (c.times .louder) (c.times .quieter)
  libclangDir := c.directory.map fun d => d.1.path
  action := .parse c.request

/-- Some groups in front of the command and the others behind it. Only what the program knows too may stand in front,
and the counted flags stay together. -/
structure Arranged (c : Choice) (front back : List OptionGroup) : Prop where
  perm : (front ++ back).Perm c.groups
  global : ∀ g ∈ front, g.isGlobal = true
  together : (∃ g ∈ front, g.isCount = true) → ∀ g ∈ back, g.isCount = false

end Choice

/-- The arguments of a run, the program's name first. -/
def arrangedWords (name : Bytes) (front back : List OptionGroup) : List Bytes :=
  name :: (front.flatMap OptionGroup.words ++ Bytes.ofText "parse" :: back.flatMap OptionGroup.words)

namespace Choice

variable {c : Choice} {front back : List OptionGroup}

theorem mem_groups {g : OptionGroup} : g ∈ c.groups ↔ c.Has g := by
  cases g with
  | file name => simp [groups, Has]
  | switch w => simp [groups, Has, Switch.mem_all]
  | directory name attached => simp [groups, Has]
  | count flag asking => simp [groups, Has, and_comm, eq_comm (a := flag)]

theorem groups_apart (c : Choice) : c.groups.Pairwise OptionGroup.Apart := by
  have switches : ((Switch.all.filter c.switches).map OptionGroup.switch).Pairwise OptionGroup.Apart := by
    have different : Switch.all.Pairwise fun v w => v.opt ≠ w.opt := by decide
    exact List.pairwise_map.mpr ((different.filter _).imp fun distinct same => absurd (Option.some.inj same) distinct)
  have directories : (c.directory.map fun (name, attached) => OptionGroup.directory name attached).toList.Pairwise
      OptionGroup.Apart := by
    cases c.directory <;> simp
  have counts : (c.askings.map (.count c.counted)).Pairwise OptionGroup.Apart :=
    List.pairwise_map.mpr (List.pairwise_of_forall fun _ _ _ => rfl)
  refine List.pairwise_cons.mpr ⟨?_, List.pairwise_append.mpr
    ⟨switches, List.pairwise_append.mpr ⟨directories, counts, ?_⟩, ?_⟩⟩
  · intro h member same
    cases h with
    | file => simp at member
    | switch | directory | count => cases same
  · intro g directory h count same
    obtain ⟨asking, _, rfl⟩ := List.mem_map.mp count
    cases g with
    | file | switch => simp at directory
    | directory => exact absurd (Option.some.inj same).symm c.counted.opt_ne_directory
    | count => rfl
  · intro g switch h member same
    obtain ⟨w, _, rfl⟩ := List.mem_map.mp switch
    cases h with
    | file => cases same
    | switch => simp at member
    | directory => exact absurd (Option.some.inj same) w.opt_ne_directory
    | count d => exact absurd (Option.some.inj same) (Counted.opt_ne_switch w d)

theorem file_iff {file : Path} : (∃ g ∈ c.groups, g.file? = some file) ↔ c.file.path = file := by
  simp [groups, or_and_right, exists_or, OptionGroup.file?]

theorem directory_iff {dir : Path} :
    (∃ g ∈ c.groups, g.directory? = some dir) ↔ c.invocation.libclangDir = some dir := by
  simp [groups, or_and_right, exists_or, OptionGroup.directory?, invocation]

theorem switch_iff {w : Switch} : (∃ g ∈ c.groups, g.opt? = some w.opt) ↔ c.switches w = true := by
  constructor
  · rintro ⟨g, member, named⟩
    have had := mem_groups.mp member
    cases g with
    | file => cases named
    | switch v =>
      obtain rfl := Switch.opt_injective (Option.some.inj named)
      exact had
    | directory => exact absurd (Option.some.inj named).symm w.opt_ne_directory
    | count d => exact absurd (Option.some.inj named).symm (Counted.opt_ne_switch w d)
  · exact fun on => ⟨.switch w, mem_groups.mpr on, rfl⟩

theorem sum_times (flag : Counted) : (c.groups.map (OptionGroup.times flag)).sum = c.times flag := by
  have switches : (((Switch.all.filter c.switches).map .switch).map (OptionGroup.times flag)).sum = 0 := by
    refine OptionGroup.sum_times_eq_zero fun g member => ?_
    obtain ⟨w, _, rfl⟩ := List.mem_map.mp member
    rfl
  have directories : ((c.directory.map fun (name, attached) => OptionGroup.directory name attached).toList.map
      (OptionGroup.times flag)).sum = 0 := by
    cases c.directory <;> rfl
  have counts : ((c.askings.map (.count c.counted)).map (OptionGroup.times flag)).sum = c.times flag := by
    unfold times
    split
    · rename_i same
      rw [List.map_map]
      exact congrArg List.sum (List.map_congr_left fun asking _ => if_pos same)
    · rename_i other
      refine OptionGroup.sum_times_eq_zero fun g member => ?_
      obtain ⟨asking, _, rfl⟩ := List.mem_map.mp member
      exact if_neg other
  rw [groups, List.map_append, List.map_append, List.sum_append, List.sum_append, List.map_cons, List.sum_cons,
    switches, directories, counts]
  simp [OptionGroup.times]

theorem counted_of_mem {flag : Counted} (named : ∃ g ∈ c.groups, g.opt? = some flag.opt) : c.counted = flag := by
  obtain ⟨g, member, named⟩ := named
  have had := mem_groups.mp member
  cases g with
  | file => cases named
  | switch w => exact absurd (Option.some.inj named) (Counted.opt_ne_switch w flag)
  | directory => exact absurd (Option.some.inj named).symm flag.opt_ne_directory
  | count d => exact had.1.symm.trans (Counted.opt_injective (Option.some.inj named))

/-- A choice counts one flag and not the other. -/
theorem times_single (c : Choice) : c.times .louder = 0 ∨ c.times .quieter = 0 := by
  cases counted : c.counted with
  | louder => exact Or.inr (if_neg (by simp [counted]))
  | quieter => exact Or.inl (if_neg (by simp [counted]))

namespace Arranged

open Reading

variable {inner outer : Reading}

theorem mem_groups (arranged : c.Arranged front back) {g : OptionGroup} : g ∈ front ∨ g ∈ back ↔ g ∈ c.groups := by
  rw [← List.mem_append, arranged.perm.mem_iff]

theorem exists_mem_groups (arranged : c.Arranged front back) {P : OptionGroup → Prop} :
    (∃ g ∈ c.groups, P g) ↔ (∃ g ∈ front, P g) ∨ ∃ g ∈ back, P g := by
  simp only [← arranged.mem_groups, or_and_right, exists_or]

/-- What the program does not know stands behind the command. -/
theorem exists_mem_back (arranged : c.Arranged front back) {P : OptionGroup → Prop}
    (inside : ∀ g, P g → g.isGlobal = false) : (∃ g ∈ back, P g) ↔ ∃ g ∈ c.groups, P g := by
  rw [arranged.exists_mem_groups, or_iff_right]
  rintro ⟨g, member, holds⟩
  exact nomatch (inside g holds).symm.trans (arranged.global g member)

theorem apart (arranged : c.Arranged front back) : (front ++ back).Pairwise OptionGroup.Apart :=
  (arranged.perm.pairwise_iff OptionGroup.Apart.symm).mpr c.groups_apart

/-- The inner level is asked first, and what is counted is all counted at one of the two. -/
theorem times_eq (arranged : c.Arranged front back) (flag : Counted) (heard : Heard back inner) :
    (if inner.has flag.opt then (back.map (OptionGroup.times flag)).sum
      else (front.map (OptionGroup.times flag)).sum) = c.times flag := by
  have all : (front.map (OptionGroup.times flag)).sum + (back.map (OptionGroup.times flag)).sum = c.times flag := by
    rw [← List.sum_append, ← List.map_append, (arranged.perm.map _).sum_nat, sum_times]
  split
  · rename_i had
    obtain ⟨g, member, named⟩ := (heard.given _).mp (has_iff.mp had)
    have counted : g.isCount = true := OptionGroup.isCount_iff.mpr ⟨flag, named⟩
    have silent : (front.map (OptionGroup.times flag)).sum = 0 := by
      refine OptionGroup.sum_times_eq_zero fun h before => OptionGroup.times_eq_zero fun same => ?_
      have early := arranged.together ⟨h, before, OptionGroup.isCount_iff.mpr ⟨flag, same⟩⟩ g member
      exact nomatch counted.symm.trans early
    rwa [silent, Nat.zero_add] at all
  · rename_i had
    have silent : (back.map (OptionGroup.times flag)).sum = 0 :=
      OptionGroup.sum_times_eq_zero fun g member => OptionGroup.times_eq_zero fun same =>
        had (has_iff.mpr ((heard.given _).mpr ⟨g, member, same⟩))
    rwa [silent, Nat.add_zero] at all

theorem libclangDir_eq (arranged : c.Arranged front back) (heard : Heard back inner) (before : Heard front outer) :
    (if inner.has .libclangDir then inner.libclangDir else outer.libclangDir) = c.invocation.libclangDir := by
  split
  · rename_i had
    obtain ⟨g, member, named⟩ := (heard.given _).mp (has_iff.mp had)
    obtain ⟨dir, same⟩ := OptionGroup.opt?_eq_directory.mp named
    rw [(heard.directory dir).mpr ⟨g, member, same⟩]
    exact (directory_iff.mp ⟨g, arranged.mem_groups.mp (Or.inr member), same⟩).symm
  · rename_i had
    ext dir
    rw [← directory_iff, before.directory, arranged.exists_mem_groups, or_iff_left]
    rintro ⟨g, member, same⟩
    exact had (has_iff.mpr ((heard.given _).mpr ⟨g, member, OptionGroup.opt?_eq_directory.mpr ⟨dir, same⟩⟩))

theorem single {gs : List OptionGroup} {s : Reading} (heard : Heard gs s) (within : ∀ g ∈ gs, g ∈ c.groups) :
    .verbose ∉ s.given ∨ .quiet ∉ s.given := by
  rw [← not_and_or]
  rintro ⟨verbose, quiet⟩
  obtain ⟨g, member, louder⟩ := (heard.given _).mp verbose
  obtain ⟨h, other, quieter⟩ := (heard.given _).mp quiet
  have up : c.counted = .louder := counted_of_mem ⟨g, within g member, louder⟩
  have down : c.counted = .quieter := counted_of_mem ⟨h, within h other, quieter⟩
  exact nomatch up.symm.trans down

theorem action_eq (arranged : c.Arranged front back) (heard : Heard back inner) :
    Invocation.commanded .parse inner = c.invocation.action := by
  have file : inner.file = some c.file.path := by
    refine (heard.file _).mpr ((arranged.exists_mem_back fun g named => ?_).mpr (file_iff.mpr rfl))
    cases g with
    | file => rfl
    | switch | directory | count => cases named
  have switched : ∀ w : Switch, inner.has w.opt = c.switches w := by
    intro w
    rw [Bool.eq_iff_iff, has_iff, heard.given, arranged.exists_mem_back, switch_iff]
    intro g named
    cases g with
    | file | switch => rfl
    | directory => exact absurd (Option.some.inj named).symm w.opt_ne_directory
    | count d => exact absurd (Option.some.inj named).symm (Counted.opt_ne_switch w d)
  refine Invocation.commanded_eq_parse.mpr ⟨rfl, c.file.path, file, ?_⟩
  rw [request, ← switched, ← switched, ← switched, heard.clangArgs]
  rfl

/-- What the levels count together is what was chosen, as far as counters go. -/
theorem counted_eq (arranged : c.Arranged front back) (flag : Counted) (heard : Heard back inner)
    (before : Heard front outer) :
    SameCount (if inner.has flag.opt then inner.counted flag else outer.counted flag) (c.times flag) := by
  rw [← arranged.times_eq flag heard]
  split
  · exact heard.counted flag
  · exact before.counted flag

theorem combine_eq (arranged : c.Arranged front back) (heard : Heard back inner) (before : Heard front outer) :
    Invocation.combine outer inner (Invocation.commanded .parse inner) = c.invocation := by
  have level := Invocation.verbosity_eq_of_sameCount (arranged.counted_eq .louder heard before)
    (arranged.counted_eq .quieter heard before) c.times_single
  rw [Invocation.combine, arranged.action_eq heard, arranged.libclangDir_eq heard before]
  exact congrArg (fun l => (⟨l, c.invocation.libclangDir, c.invocation.action⟩ : Invocation)) level

end Arranged

end Choice

open Reading in
/-- Options and the file may come in any order, and what the program knows too may come before the command. All that
counts is what was chosen. -/
theorem arranged_words_understood (c : Choice) (name : Bytes) (front back : List OptionGroup)
    (arranged : c.Arranged front back) :
    Invocation.ofArguments (arrangedWords name front back) = .ok c.invocation := by
  have apart := List.pairwise_append.mp arranged.apart
  let program : Addressee := ⟨.program, Invocation.programName? name⟩
  let parse : Addressee := ⟨.parse, Invocation.programName? name⟩
  obtain ⟨r, outer, before, settles, outside⟩ := exists_heard program apart.1 fun g member =>
    Or.inr ⟨rfl, arranged.global g member⟩
  obtain ⟨t, inner, behind, settled, inside⟩ := exists_heard parse apart.2.1 fun g member => Or.inl rfl
  have named : commandAt program r (Bytes.ofText "parse") = some .parse := by
    rw [commandAt, settles.not_awaiting]
    rfl
  have handed : Reads program {} (front.flatMap OptionGroup.words ++ Bytes.ofText "parse" ::
      back.flatMap OptionGroup.words) r (some (.parse, back.flatMap OptionGroup.words)) :=
    before.append (OptionGroup.flatMap_words_unescaped front) (.command named)
  have filed : inner.file.isSome = true := by
    obtain ⟨_, file, filed, _⟩ := Invocation.commanded_eq_parse.mp (arranged.action_eq inside)
    rw [filed, Option.isSome_some]
  have read : Invocation.readCommand parse.startedAs .parse (back.flatMap OptionGroup.words) = .ok inner := by
    have single := Choice.Arranged.single inside fun g member => arranged.mem_groups.mp (Or.inr member)
    exact Invocation.readCommand_eq_ok.mpr ⟨t, none, behind,
      finish_eq_ok.mpr ⟨settled, inside.exclusion?_eq_none single, fun _ => filed⟩⟩
  have ended : r.finish program = .ok outer := by
    have single := Choice.Arranged.single outside fun g member => arranged.mem_groups.mp (Or.inl member)
    exact finish_eq_ok.mpr ⟨settles, outside.exclusion?_eq_none single, by rintro ⟨⟩⟩
  exact Invocation.ofArguments_eq_ok.mpr ⟨r, .parse, _, inner, outer, handed, by decide, read, ended,
    arranged.combine_eq inside outside⟩

def loudChoice : Choice where
  file := ⟨Bytes.ofText "a", by decide, by decide⟩
  switches w := w = .incomplete
  directory := some (⟨Bytes.ofText "parse", by decide, by decide⟩, false)
  counted := .louder
  askings := [.named, .lettered 1]

/-- A directory that is named like the command comes first, and the file comes last. -/
theorem loud_words_understood :
    let front : List OptionGroup :=
      [.count .louder (.lettered 1), .directory ⟨Bytes.ofText "parse", by decide, by decide⟩ false,
        .count .louder .named]
    let back : List OptionGroup := [.switch .incomplete, .file ⟨Bytes.ofText "a", by decide, by decide⟩]
    loudChoice.Arranged front back ∧
      arrangedWords (Bytes.ofText "cxxast") front back =
        ["cxxast", "-vv", "--libclang-dir", "parse", "--verbose", "parse", "--incomplete", "a"].map Bytes.ofText ∧
      Invocation.ofArguments (arrangedWords (Bytes.ofText "cxxast") front back) =
        .ok ⟨.trace, some (.ofText "parse"), .parse { file := .ofText "a", incomplete := true }⟩ := by
  intro front back
  have arranged : loudChoice.Arranged front back := ⟨by decide, by decide, by decide⟩
  exact ⟨arranged, rfl, arranged_words_understood loudChoice (Bytes.ofText "cxxast") front back arranged⟩

end ClangAccess
