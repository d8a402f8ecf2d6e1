import ClangAccess.FileTree
import Mathlib.Data.List.Basic
import Mathlib.Data.List.TakeWhile

namespace ClangAccess

open FileTree (above)

/-- Where a path leads if no link is followed: the names on the way that still count, the last one first. -/
structure Place where
  absolute : Bool
  trail : List Bytes
  deriving DecidableEq, Repr

namespace Place

def root : Place := ⟨true, []⟩

/-- One directory up. There is nothing above the root; what leads out of the directory that a relative path
begins in has to be kept. -/
def up : Place → Place
  | ⟨true, []⟩ => root
  | ⟨false, []⟩ => ⟨false, [above]⟩
  | ⟨absolute, last :: rest⟩ => if last = above then ⟨absolute, above :: last :: rest⟩ else ⟨absolute, rest⟩

def down (place : Place) (name : Bytes) : Place := ⟨place.absolute, name :: place.trail⟩

def step (place : Place) (name : Bytes) : Place := if name = above then place.up else place.down name

@[simp] theorem up_root : root.up = root := rfl

@[simp] theorem step_above (place : Place) : place.step above = place.up := if_pos rfl

theorem step_name (place : Place) {name : Bytes} (proper : name ≠ above) : place.step name = place.down name :=
  if_neg proper

theorem up_down (place : Place) {name : Bytes} (proper : name ≠ above) : (place.down name).up = place := by
  cases place with
  | mk absolute trail => simp [down, up, proper]

theorem down_inj {p q : Place} {name : Bytes} : p.down name = q.down name ↔ p = q := by
  cases p; cases q
  simp [down]

/-- Only the root is two directories above itself. -/
theorem up_up_eq_iff (place : Place) : place.up.up = place ↔ place = root := by
  refine ⟨fun same => ?_, by rintro rfl; rfl⟩
  have trails := congrArg trail same
  rcases place with ⟨absolute, - | ⟨last, rest⟩⟩
  · cases absolute with
    | true => rfl
    | false => simp [up] at trails
  -- Two steps of one kind show in the length of the trail, one back and one out in its last name.
  have lengths := congrArg List.length trails
  by_cases climbs : last = above
  · simp only [up, climbs, if_true, List.length_cons] at lengths
    omega
  rcases rest with - | ⟨next, more⟩
  · cases absolute <;> simp [up, climbs, root, Ne.symm climbs] at trails
  by_cases climbsNext : next = above
  · simp [up, climbs, climbsNext, Ne.symm climbs] at trails
  · simp only [up, climbs, climbsNext, if_false, List.length_cons] at lengths
    omega

end Place

namespace Path

def place (p : Path) : Place := (names p).foldl Place.step ⟨p.isAbsolute, []⟩

/-- A stretch of a path that leads somewhere. -/
structure IsName (name : Bytes) : Prop where
  nonempty : name ≠ []
  notHere : name ≠ here
  whole : slash ∉ name

theorem segments_eq_splitOn (bytes : Bytes) : segments bytes = bytes.splitOn slash := by
  induction bytes with
  | nil => rfl
  | cons b rest ih =>
    rw [segments, ih, List.splitOn_cons_eq_if_modifyHead]
    cases split : rest.splitOn slash with
    | nil => exact absurd split (List.splitOn_ne_nil slash rest)
    | cons s more => by_cases cut : b = slash <;> simp [cut]

theorem names_append_slash (front back : Bytes) :
    names ⟨front ++ slash :: back⟩ = names ⟨front⟩ ++ names ⟨back⟩ := by
  simp only [names, segments_eq_splitOn, List.splitOn_append_cons_self, List.filter_append]

theorem names_slash (back : Bytes) : names ⟨slash :: back⟩ = names ⟨back⟩ := names_append_slash [] back

theorem names_append_one_slash (front : Bytes) : names ⟨front ++ [slash]⟩ = names ⟨front⟩ :=
  (names_append_slash front []).trans (List.append_nil _)

/-- A path falls apart in front of a slash. -/
theorem names_append {front back : Bytes} (cut : back = [] ∨ back.head? = some slash) :
    names ⟨front ++ back⟩ = names ⟨front⟩ ++ names ⟨back⟩ := by
  rcases back with - | ⟨b, rest⟩
  · simp [names, segments]
  · obtain rfl : b = slash := by simpa using cut
    rw [names_append_slash, names_slash]

theorem IsName.names_eq {name : Bytes} (isName : IsName name) : names ⟨name⟩ = [name] := by
  rw [names, segments_eq_splitOn, List.splitOn_eq_singleton isName.whole]
  simp [isName.nonempty, isName.notHere]

/-- What ends a path without naming anything can be left out. -/
theorem names_dropInert (bytes : Bytes) : names ⟨(dropInert bytes).reverse⟩ = names ⟨bytes.reverse⟩ := by
  fun_induction dropInert bytes with
  | case1 => rfl
  | case2 rest ih => rw [ih, List.reverse_cons, names_append_one_slash]
  | case3 => rfl
  | case4 more _ ih =>
    rw [ih, List.reverse_cons, List.reverse_cons, List.append_assoc, List.singleton_append, names_append_slash]
    exact (List.append_nil _).symm
  | case5 => rfl
  | case6 => rfl

theorem dropInert_suffix (bytes : Bytes) : dropInert bytes <:+ bytes := by
  fun_induction dropInert bytes with
  | case1 => exact List.nil_suffix
  | case2 rest ih => exact ih.trans (List.suffix_cons _ _)
  | case3 => exact List.nil_suffix
  | case4 more _ ih => exact ih.trans ((List.suffix_cons _ _).trans (List.suffix_cons _ _))
  | case5 => exact List.suffix_rfl
  | case6 => exact List.suffix_rfl

/-- The bytes begin with a name: neither with a slash nor with a dot that stands alone. -/
def OpensName : Bytes → Prop
  | [] => False
  | b :: rest => b ≠ slash ∧ (b = dot → rest ≠ [] ∧ rest.head? ≠ some slash)

/-- What is left, read backwards, begins with a name. -/
theorem dropInert_opensName {bytes : Bytes} (filled : dropInert bytes ≠ []) : OpensName (dropInert bytes) := by
  fun_induction dropInert bytes with
  | case1 => exact absurd rfl filled
  | case2 rest ih => exact ih filled
  | case3 => exact absurd rfl filled
  | case4 more _ ih => exact ih filled
  | case5 c more notSlash dotNotSlash => exact ⟨dotNotSlash, fun _ => ⟨by simp, by simpa using notSlash⟩⟩
  | case6 b rest notSlash notDot => exact ⟨notSlash, fun isDot => absurd isDot notDot⟩

theorem OpensName.isAbsolute_eq {bytes : Bytes} (opens : OpensName bytes) : isAbsolute ⟨bytes⟩ = false := by
  rcases bytes with - | ⟨b, rest⟩
  · exact opens.elim
  · simpa [isAbsolute] using opens.1

theorem OpensName.isName {bytes : Bytes} (opens : OpensName bytes) : IsName (bytes.takeWhile (· ≠ slash)) := by
  rcases bytes with - | ⟨b, rest⟩
  · exact opens.elim
  obtain ⟨notSlash, dotted⟩ := opens
  have taken : (b :: rest).takeWhile (· ≠ slash) = b :: rest.takeWhile (· ≠ slash) := by simp [notSlash]
  refine ⟨by simp [notSlash], fun isHere => ?_, fun isIn => by simpa using List.mem_takeWhile_imp isIn⟩
  obtain ⟨isDot, alone⟩ := List.cons.inj (taken.symm.trans isHere)
  obtain ⟨filled, notCut⟩ := dotted isDot
  obtain ⟨c, more, rfl⟩ := List.exists_cons_of_ne_nil filled
  exact notCut (by simpa using alone)

theorem IsName.reverse {name : Bytes} (isName : IsName name) : IsName name.reverse where
  nonempty := by simpa using isName.nonempty
  notHere := fun isHere => isName.notHere (by simpa [here] using congrArg List.reverse isHere)
  whole := by simpa using isName.whole

theorem dropWhile_cut (bytes : Bytes) :
    bytes.dropWhile (· ≠ slash) = [] ∨ (bytes.dropWhile (· ≠ slash)).head? = some slash := by
  have stopped := List.head?_dropWhile_not (· ≠ slash) bytes
  cases left : bytes.dropWhile (· ≠ slash) with
  | nil => exact Or.inl rfl
  | cons b rest =>
    rw [left] at stopped
    exact Or.inr (by simpa using stopped)

/-- The first slash ends the first name. -/
theorem OpensName.names_eq {bytes : Bytes} (opens : OpensName bytes) :
    names ⟨bytes⟩ = bytes.takeWhile (· ≠ slash) :: names ⟨bytes.dropWhile (· ≠ slash)⟩ := by
  conv_lhs => rw [← List.takeWhile_append_dropWhile (p := (· ≠ slash)) (l := bytes)]
  rw [names_append (dropWhile_cut bytes), opens.isName.names_eq, List.singleton_append]

/-- Read backwards, the first slash begins the last name. -/
theorem OpensName.names_reverse {bytes : Bytes} (opens : OpensName bytes) :
    names ⟨bytes.reverse⟩ =
      names ⟨(bytes.dropWhile (· ≠ slash)).reverse⟩ ++ [(bytes.takeWhile (· ≠ slash)).reverse] := by
  conv_lhs => rw [← List.takeWhile_append_dropWhile (p := (· ≠ slash)) (l := bytes), List.reverse_append]
  have name := opens.isName.reverse.names_eq
  rcases dropWhile_cut bytes with none | cut
  · simp only [none, List.reverse_nil, List.nil_append, name]
    rfl
  · obtain ⟨rest, split⟩ := List.head?_eq_some_iff.mp cut
    rw [split, List.reverse_cons, List.append_assoc, List.singleton_append, names_append_slash, name,
      names_append_one_slash]

theorem dot_ne_slash : dot ≠ slash := by decide

/-- A path that falls into an anchor and the rest. -/
inductive Anchored : (bytes anchor body : Bytes) → Prop
  | root {rest} : Anchored (slash :: rest) [slash] rest
  | here {rest} : rest = [] ∨ rest.head? = some slash → Anchored (dot :: rest) [dot] rest
  | none {bytes} : bytes = [] ∨ OpensName bytes → Anchored bytes [] bytes

theorem splitAnchor_anchored (bytes : Bytes) : Anchored bytes (splitAnchor bytes).1 (splitAnchor bytes).2 := by
  rcases bytes with - | ⟨b, rest⟩
  · exact .none (Or.inl rfl)
  by_cases isSlash : b = slash
  · simpa [splitAnchor, isSlash] using Anchored.root
  by_cases isHere : b = dot ∧ (rest = [] ∨ rest.head? = some slash)
  · obtain ⟨rfl, alone⟩ := isHere
    simpa [splitAnchor, isSlash, alone] using Anchored.here alone
  · have opens : OpensName (b :: rest) :=
      ⟨isSlash, fun isDot => not_or.mp fun alone => isHere ⟨isDot, alone⟩⟩
    have split : splitAnchor (b :: rest) = ([], b :: rest) := by
      by_cases isDot : b = dot
      · simp [splitAnchor, isDot, dot_ne_slash, opens.2 isDot]
      · simp [splitAnchor, isSlash, isDot]
    rw [split]
    exact .none (Or.inr opens)

section Anchored

variable {bytes anchor body front : Bytes}

theorem Anchored.whole (anchored : Anchored bytes anchor body) : anchor ++ body = bytes := by
  cases anchored <;> rfl

/-- The anchor names nothing, whatever is kept of the rest. -/
theorem Anchored.names_front (anchored : Anchored bytes anchor body) (kept : front <+: body) :
    names ⟨anchor ++ front⟩ = names ⟨front⟩ := by
  cases anchored with
  | root => exact names_slash front
  | here alone =>
    have cut : front = [] ∨ front.head? = some slash := by
      rcases front with - | ⟨b, rest⟩
      · exact Or.inl rfl
      · obtain ⟨more, rfl⟩ := kept
        exact Or.inr (by simpa using alone)
    exact names_append cut
  | none => rfl

theorem Anchored.isAbsolute_front (anchored : Anchored bytes anchor body) (kept : front <+: body) :
    isAbsolute ⟨anchor ++ front⟩ = isAbsolute ⟨bytes⟩ := by
  cases anchored with
  | root => rfl
  | here => rfl
  | none opens =>
    rcases front with - | ⟨b, rest⟩
    · rcases opens with rfl | opens
      · rfl
      · exact opens.isAbsolute_eq.symm
    · obtain ⟨more, rfl⟩ := kept
      rfl

end Anchored

/-- A path and the path without its last component. The root and the empty path have none to lose, and a path of
nothing but dots loses all that it has. -/
inductive ParentOf (p : Path) : Option Path → Prop
  | top : names p = [] → p.isAbsolute = true ∨ p.isEmpty = true → ParentOf p none
  | here : names p = [] → p.isAbsolute = false → p.isEmpty = false → ParentOf p (some ⟨[]⟩)
  | below {q name} : IsName name → names p = names q ++ [name] → q.isAbsolute = p.isAbsolute → ParentOf p (some q)

theorem parent?_parentOf (p : Path) : ParentOf p p.parent? := by
  obtain ⟨bytes⟩ := p
  have anchored := splitAnchor_anchored bytes
  rw [parent?]
  generalize splitAnchor bytes = split at anchored
  obtain ⟨anchor, body⟩ := split
  simp only at anchored ⊢
  -- Neither the anchor nor what `dropInert` drops names anything.
  have known : names ⟨bytes⟩ = names ⟨(dropInert body.reverse).reverse⟩ := by
    rw [names_dropInert, List.reverse_reverse, ← anchored.whole, anchored.names_front List.prefix_rfl]
  cases last : dropInert body.reverse with
  | nil =>
    rw [last] at known
    cases anchored with
    | root => exact .top known (Or.inl rfl)
    | here alone => exact .here known rfl rfl
    | none opens =>
      rcases opens with rfl | opens
      · exact .top known (Or.inr rfl)
      · exact absurd (opens.names_eq.symm.trans known) (List.cons_ne_nil _ _)
  | cons b rest =>
    have opens : OpensName (b :: rest) := last ▸ dropInert_opensName (by simp [last])
    have kept : (dropInert ((b :: rest).dropWhile (· ≠ slash))).reverse <+: body := by
      have suffix : dropInert ((b :: rest).dropWhile (· ≠ slash)) <:+ body.reverse :=
        (dropInert_suffix _).trans ((List.dropWhile_suffix _).trans (last ▸ dropInert_suffix body.reverse))
      simpa using List.reverse_prefix.mpr suffix
    refine .below opens.isName.reverse ?_ (anchored.isAbsolute_front kept)
    rw [anchored.names_front kept, names_dropInert, ← opens.names_reverse, known, last]

theorem exists_parent_of_names_ne_nil {p : Path} (named : names p ≠ []) : ∃ dir, p.parent? = some dir := by
  have parentOf := parent?_parentOf p
  cases parent : p.parent? with
  | some dir => exact ⟨dir, rfl⟩
  | none =>
    rw [parent] at parentOf
    cases parentOf with
    | top nothing => exact absurd nothing named

section Join

variable (p : Path) {q : Path} (relative : q.isAbsolute = false)

include relative

theorem names_join : names (p.join q) = names p ++ names q := by
  obtain ⟨bytes⟩ := p
  simp only [join, relative, Bool.false_eq_true, if_false]
  split
  case isTrue flush =>
    rcases Bool.or_eq_true_iff.mp flush with empty | ended
    · obtain rfl : bytes = [] := by simpa [isEmpty] using empty
      rfl
    · obtain ⟨front, rfl⟩ := List.getLast?_eq_some_iff.mp (of_decide_eq_true ended)
      rw [names_append_one_slash]
      simpa using names_append_slash front q.bytes
  case isFalse => exact names_append_slash bytes q.bytes

theorem isAbsolute_join : (p.join q).isAbsolute = p.isAbsolute := by
  obtain ⟨bytes⟩ := p
  simp only [join, relative, Bool.false_eq_true, if_false]
  rcases bytes with - | ⟨b, rest⟩
  · exact relative
  · split <;> rfl

theorem place_join : (p.join q).place = (names q).foldl Place.step p.place := by
  rw [place, place, names_join p relative, isAbsolute_join p relative, List.foldl_append]

end Join

example : ((Path.ofText "/a/../..").join (.ofText "b/.//../c/")).place = ⟨true, [Bytes.ofText "c"]⟩ := by decide

theorem place_of_names_eq_nil {p : Path} (nothing : names p = []) : p.place = ⟨p.isAbsolute, []⟩ := by
  rw [place, nothing, List.foldl_nil]

theorem place_of_names_eq_append {p q : Path} {name : Bytes} (split : names p = names q ++ [name])
    (same : q.isAbsolute = p.isAbsolute) : p.place = q.place.step name := by
  rw [place, place, split, same, List.foldl_concat]

/-- The last component leads down into something. -/
def EndsInName (p : Path) : Prop := ∃ name, (names p).getLast? = some name ∧ name ≠ above

theorem endsInName_of_names_eq_append {p q : Path} {name : Bytes} (split : names p = names q ++ [name]) :
    p.EndsInName ↔ name ≠ above := by
  simp [EndsInName, split]

theorem not_endsInName_of_names_eq_nil {p : Path} (nothing : names p = []) : ¬p.EndsInName := by
  simp [EndsInName, nothing]

/-- A directory without its last component; the root keeps what it has. -/
def base (dir : Path) : Path := dir.parent?.getD dir

/-- To leave the last component off is to go one directory up only if that component leads down. -/
theorem place_base_eq_up_iff {dir : Path} (filled : dir.isEmpty = false) :
    dir.base.place = dir.place.up ↔ dir.EndsInName ∨ dir.base.place = Place.root := by
  have parent := parent?_parentOf dir
  rw [base]
  generalize dir.parent? = without at parent
  cases parent with
  | top nothing start =>
    have absolute : dir.isAbsolute = true := by simpa [filled] using start
    have atRoot : dir.place = Place.root := by rw [place_of_names_eq_nil nothing, absolute]; rfl
    simp [atRoot]
  | here nothing relative =>
    have start : dir.place = ⟨false, []⟩ := by rw [place_of_names_eq_nil nothing, relative]
    have out : Path.place ⟨[]⟩ = ⟨false, []⟩ := rfl
    simp [start, out, Place.up, Place.root, not_endsInName_of_names_eq_nil nothing]
  | @below q name _ split same =>
    rw [place_of_names_eq_append split same, endsInName_of_names_eq_append split, Option.getD_some]
    -- After a name, `up` takes back the last step; after `..` it takes another one in the same direction.
    by_cases climbs : name = above
    · rw [climbs, Place.step_above, eq_comm, Place.up_up_eq_iff]
      simp
    · rw [Place.step_name _ climbs, Place.up_down _ climbs]
      simp [climbs]

/-- An absolute path in which no component leads up. -/
structure IsCanonical (p : Path) : Prop where
  absolute : p.isAbsolute = true
  descends : above ∉ names p

theorem IsCanonical.parent {p dir : Path} (canonical : p.IsCanonical) (parent : p.parent? = some dir) :
    dir.IsCanonical := by
  have parentOf := parent?_parentOf p
  rw [parent] at parentOf
  cases parentOf with
  | here _ relative => simp [canonical.absolute] at relative
  | below _ split same =>
    exact ⟨same.trans canonical.absolute, fun isIn => canonical.descends (by simp [split, isIn])⟩

/-- Such a path ends in a name, or it is the root and stays there. -/
theorem IsCanonical.endsInName_or_root {dir : Path} (canonical : dir.IsCanonical) :
    dir.EndsInName ∨ dir.base.place = Place.root := by
  have parentOf := parent?_parentOf dir
  rw [base]
  generalize dir.parent? = without at parentOf
  cases parentOf with
  | top nothing => exact Or.inr (by rw [Option.getD_none, place_of_names_eq_nil nothing, canonical.absolute]; rfl)
  | here _ relative => simp [canonical.absolute] at relative
  | @below q name _ split =>
    refine Or.inl ((endsInName_of_names_eq_append split).mpr fun climbs => canonical.descends ?_)
    simp [split, climbs]

end Path

end ClangAccess
