import ClangAccess.Proofs.LexicalPath

namespace ClangAccess

open ClangAccess.Path (slash here names IsName IsCanonical)

theorem Path.slash_notMem_of_mem_segments {bytes name : Bytes} (isIn : name ∈ segments bytes) : slash ∉ name := by
  induction bytes generalizing name with
  | nil => simp_all [segments]
  | cons b rest ih =>
    rw [segments] at isIn
    cases split : segments rest with
    | nil => exact absurd split (segments_eq_splitOn rest ▸ List.splitOn_ne_nil slash rest)
    | cons first more =>
      have firstWhole : slash ∉ first := ih (by simp [split])
      have moreWhole : ∀ other ∈ more, slash ∉ other := fun other isOther => ih (by simp [split, isOther])
      by_cases cut : b = slash
      · simp only [split, cut, if_true, List.mem_cons] at isIn
        rcases isIn with rfl | rfl | isIn
        · exact List.not_mem_nil
        · exact firstWhole
        · exact moreWhole name isIn
      · simp only [split, cut, if_false, List.mem_cons] at isIn
        rcases isIn with rfl | isIn
        · exact List.not_mem_cons_of_ne_of_not_mem (Ne.symm cut) firstWhole
        · exact moreWhole name isIn

namespace FileTree

/-- The names on a way that only leads down. -/
def Descends (route : Route) : Prop := ∀ name ∈ route, IsName name ∧ name ≠ above

/-- Names as a path has them, empty ones and dots included. -/
def Whole (names : List Bytes) : Prop := ∀ name ∈ names, slash ∉ name

theorem Descends.dropLast {base : Route} (descends : Descends base) : Descends base.dropLast :=
  fun name isIn => descends name (List.dropLast_subset base isIn)

theorem Descends.append_name {base : Route} {name : Bytes} (descends : Descends base) (isName : IsName name)
    (leadsDown : name ≠ above) : Descends (base ++ [name]) := by
  intro other isIn
  rcases List.mem_append.mp isIn with isIn | isIn
  · exact descends other isIn
  · obtain rfl := List.mem_singleton.mp isIn
    exact ⟨isName, leadsDown⟩

/-- The way so far only leads down, and what is still to go was part of a path. -/
def Reach.Descends : Reach → Prop
  | .place route => FileTree.Descends route
  | .link base _ rest => FileTree.Descends base ∧ Whole rest
  | .nowhere _ => True

theorem reach_descends (t : FileTree) {base : Route} {names : List Bytes} (descends : Descends base)
    (whole : Whole names) : (t.reach base names).Descends := by
  have tailWhole {name rest} (whole : Whole (name :: rest)) : Whole rest := (List.forall_mem_cons.mp whole).2
  -- Wherever the way grows, it grows by a name that is not empty, a dot or `..`.
  have further {base : Route} {name : Bytes} {rest : List Bytes} (descends : Descends base)
      (whole : Whole (name :: rest)) (counts : ¬(decide (name = []) || decide (name = here)) = true)
      (leadsDown : ¬name = above) : Descends (base ++ [name]) := by
    simp only [Bool.or_eq_true, decide_eq_true_eq, not_or] at counts
    exact descends.append_name ⟨counts.1, counts.2, whole name List.mem_cons_self⟩ leadsDown
  fun_induction reach t base names with
  | case1 => exact descends
  | case2 _ _ _ _ ih => exact ih descends (tailWhole whole)
  | case3 _ _ _ ih => exact ih descends.dropLast (tailWhole whole)
  | case4 => trivial
  | case5 => trivial
  | case6 _ _ _ counts leadsDown _ _ ih => exact ih (further descends whole counts leadsDown) (tailWhole whole)
  | case7 => exact ⟨descends, tailWhole whole⟩
  | case8 _ _ _ counts leadsDown => exact further descends whole counts leadsDown
  | case9 => trivial

theorem origin_descends {base : Route} (descends : Descends base) (p : Path) : Descends (origin base p) := by
  rw [origin]
  split
  · exact fun _ isIn => absurd isIn List.not_mem_nil
  · exact descends

theorem walk_descends (t : FileTree) {links : Nat} {base route : Route} {names : List Bytes}
    (descends : Descends base) (whole : Whole names) (led : t.walk links base names = .ok route) :
    Descends route := by
  fun_induction walk t links base names with
  | case1 _ base names _ placed =>
    have reached := t.reach_descends descends whole
    rw [placed] at reached
    exact Except.ok.inj led ▸ reached
  | case2 => cases led
  | case3 => cases led
  | case4 base names linkBase target rest linked links ih =>
    have reached := t.reach_descends descends whole
    rw [linked] at reached
    obtain ⟨baseDescends, restWhole⟩ := reached
    refine ih (origin_descends baseDescends target) ?_ led
    exact List.forall_mem_append.mpr ⟨fun _ => Path.slash_notMem_of_mem_segments, restWhole⟩

theorem resolve_descends (t : FileTree) {workingDir route : Route} {p : Path} (descends : Descends workingDir)
    (led : t.resolve workingDir p = .ok route) : Descends route := by
  simp only [resolve] at led
  split at led
  · cases led
  · split at led
    · cases led
    · exact t.walk_descends (origin_descends descends p) (fun _ => Path.slash_notMem_of_mem_segments) led

theorem names_routePath {route : Route} (descends : Descends route) : names (routePath route) = route := by
  have spelled : names ⟨route.flatMap fun name => slash :: name⟩ = route := by
    induction route with
    | nil => rfl
    | cons name rest ih =>
      obtain ⟨⟨isName, -⟩, restDescends⟩ := List.forall_mem_cons.mp descends
      have cut : (rest.flatMap fun name => slash :: name) = [] ∨
          (rest.flatMap fun name => slash :: name).head? = some slash := by
        cases rest with
        | nil => exact Or.inl rfl
        | cons => exact Or.inr rfl
      rw [List.flatMap_cons, List.cons_append, Path.names_slash, Path.names_append cut, isName.names_eq,
        ih restDescends, List.singleton_append]
  cases route with
  | nil => rfl
  | cons => exact spelled

theorem isAbsolute_routePath (route : Route) : (routePath route).isAbsolute = true := by
  cases route <;> rfl

end FileTree

namespace Path

/-- A path from the root down with one slash before each name, and no dots among them. -/
def SpelledOut (p : Path) : Prop := ∃ route, FileTree.Descends route ∧ p = FileTree.routePath route

theorem SpelledOut.isCanonical {p : Path} (spelled : p.SpelledOut) : p.IsCanonical := by
  obtain ⟨route, descends, rfl⟩ := spelled
  refine ⟨FileTree.isAbsolute_routePath route, fun isIn => ?_⟩
  rw [FileTree.names_routePath descends] at isIn
  exact (descends FileTree.above isIn).2 rfl

theorem components_of_isAbsolute {p : Path} (absolute : p.isAbsolute = true) : p.components = ([slash], p.names) := by
  obtain ⟨_ | ⟨b, rest⟩⟩ := p
  · cases absolute
  · obtain rfl : b = slash := by simpa [isAbsolute] using absolute
    exact congrArg (Prod.mk [slash]) (names_slash rest).symm

/-- Of what is spelled out there is only one spelling. -/
theorem SpelledOut.same_iff {p q : Path} (spelled : p.SpelledOut) (other : q.SpelledOut) : p.Same q ↔ p = q := by
  obtain ⟨route, descends, rfl⟩ := spelled
  obtain ⟨way, descendsToo, rfl⟩ := other
  have components {way : Route} (descends : FileTree.Descends way) :
      (FileTree.routePath way).components = ([slash], way) := by
    rw [components_of_isAbsolute (FileTree.isAbsolute_routePath way), FileTree.names_routePath descends]
  rw [Same, components descends, components descendsToo, Prod.mk.injEq, and_iff_right rfl]
  refine ⟨congrArg FileTree.routePath, fun same => ?_⟩
  rw [← FileTree.names_routePath descends, same, FileTree.names_routePath descendsToo]

end Path

namespace FileTree

/-- A path that is resolved, whatever links and dots it has, is spelled out. -/
theorem canonical?_spelledOut (t : FileTree) {workingDir : Route} {p canonical : Path}
    (descends : Descends workingDir) (found : t.canonical? workingDir p = some canonical) :
    canonical.SpelledOut := by
  rw [canonical?] at found
  cases led : t.resolve workingDir p with
  | error => simp [led] at found
  | ok route => exact ⟨route, t.resolve_descends descends led, by simpa [led, eq_comm] using found⟩

theorem canonical?_isCanonical (t : FileTree) {workingDir : Route} {p canonical : Path}
    (descends : Descends workingDir) (found : t.canonical? workingDir p = some canonical) : canonical.IsCanonical :=
  (t.canonical?_spelledOut descends found).isCanonical

end FileTree

end ClangAccess
