import ClangAccess.Machine
import ClangAccess.Proofs.CanonicalPath
import ClangAccess.Proofs.Origin

namespace ClangAccess

/-- A host that has a driver and gets a version from it. -/
structure Host.OffersDriver (host : Host) (exe : Path) (version : String) : Prop where
  notWindows : host.windows = false
  found : host.answer (.find "clang++") = some exe
  accepted : ∃ said, host.answer (.run exe ["--version"]) = .ok said ∧ driverVersion? said = some version

namespace Path

theorem place_join_lib (p : Path) : (p.join (.ofText "lib")).place = p.place.down (Bytes.ofText "lib") :=
  p.place_join rfl

theorem place_join_aboveLib (p : Path) :
    (p.join (.ofText "../lib")).place = p.place.up.down (Bytes.ofText "lib") :=
  p.place_join rfl

/-- `lib` in a directory without its last component is `../lib` in the directory, if that component leads down. -/
theorem place_base_lib_iff {dir : Path} (filled : dir.isEmpty = false) :
    (dir.base.join (.ofText "lib")).place = (dir.join (.ofText "../lib")).place ↔
      dir.EndsInName ∨ dir.base.place = Place.root := by
  rw [place_join_lib, place_join_aboveLib, Place.down_inj, place_base_eq_up_iff filled]

theorem IsCanonical.isEmpty_eq_false {p : Path} (canonical : p.IsCanonical) : p.isEmpty = false := by
  obtain ⟨bytes⟩ := p
  cases bytes with
  | nil => exact absurd canonical.absolute (by decide)
  | cons => rfl

theorem IsCanonical.place_base_lib {p dir : Path} (canonical : p.IsCanonical) (parent : p.parent? = some dir) :
    (dir.base.join (.ofText "lib")).place = (dir.join (.ofText "../lib")).place := by
  have dirCanonical := canonical.parent parent
  exact (place_base_lib_iff dirCanonical.isEmpty_eq_false).mpr dirCanonical.endsInName_or_root

/-- Nothing is left of the path without its last component, or it has none. -/
def NoDirectory (p : Path) : Prop := ∀ dir, p.parent? = some dir → dir.isEmpty = true

theorem directory?_eq_none_iff (p : Path) : p.directory? = none ↔ p.NoDirectory := by
  simp [directory?, NoDirectory, Option.filter_eq_none_iff]

end Path

namespace Probe

theorem installPrefix?_eq (canonical? : Path → Option Path) (exe : Path) :
    installPrefix? canonical? exe = (((canonical? exe).getD exe).directory?).map Path.base := rfl

/-- What the probe makes of a driver whose version is known. -/
theorem clangDriver_outcome {host : Host} {exe : Path} {version : String} (offers : host.OffersDriver exe version) :
    clangDriver.outcome host =
      match installPrefix? host.canonical? exe with
      | none => .error (.layout exe "driver path has no parent directory")
      | some base => .ok (some ⟨base.join (.ofText "lib"), some exe, some version⟩) := by
  obtain ⟨said, ran, accepted⟩ := offers.accepted
  simp only [outcome, inquire, inquireClangDriver, offers.notWindows, Bool.false_eq_true, if_false, Inquiry.find,
    Inquiry.conduct, offers.found, Inquiry.debug, Inquiry.run, ran, accepted]
  cases installPrefix? host.canonical? exe <;> rfl

end Probe

/-- Where the probe for a driver puts the library when the driver is at `resolved`, links followed if they can be. -/
structure DriverPlacement (resolved exe : Path) (version : String) (outcome : ProbeOutcome) : Prop where
  misplaced : (∃ program reason, outcome = .error (.layout program reason)) ↔ resolved.NoDirectory
  reason : resolved.NoDirectory → outcome = .error (.layout exe "driver path has no parent directory")
  placed : ∀ dir, resolved.parent? = some dir → dir.isEmpty = false →
    ∃ libraryDir, outcome = .ok (some ⟨libraryDir, some exe, some version⟩) ∧
      (libraryDir.place = (dir.join (.ofText "../lib")).place ↔ dir.EndsInName ∨ dir.base.place = Place.root) ∧
      (resolved.IsCanonical → libraryDir.place = (dir.join (.ofText "../lib")).place)

/-- The library directory of a driver is `../lib` in the driver's own, as long as the last component of that one
leads down or there is nothing above it. This is so for every driver that links can be followed to. -/
theorem driver_library_placed (host : Host) (exe : Path) (version : String) (offers : host.OffersDriver exe version) :
    DriverPlacement ((host.canonical? exe).getD exe) exe version (Probe.clangDriver.outcome host) := by
  rw [Probe.clangDriver_outcome offers, Probe.installPrefix?_eq]
  generalize (host.canonical? exe).getD exe = resolved
  cases directory : resolved.directory? with
  | none =>
    have noDirectory := resolved.directory?_eq_none_iff.mp directory
    constructor
    case misplaced => exact iff_of_true ⟨_, _, rfl⟩ noDirectory
    case reason => exact fun _ => rfl
    case placed => exact fun dir parent filled => absurd (noDirectory dir parent) (by simp [filled])
  | some dir =>
    obtain ⟨parent, filled⟩ := Path.directory?_eq_some.mp directory
    have hasDirectory : ¬resolved.NoDirectory := fun noDirectory => by simp [noDirectory dir parent] at filled
    constructor
    case misplaced => exact iff_of_false nofun hasDirectory
    case reason => exact fun noDirectory => absurd noDirectory hasDirectory
    case placed =>
      intro other otherParent _
      obtain rfl : dir = other := Option.some.inj (parent.symm.trans otherParent)
      exact ⟨_, rfl, Path.place_base_lib_iff filled, fun canonical => canonical.place_base_lib parent⟩

/-- A host with nothing but a driver, which is at `resolved` if links can be followed to it. -/
def driverHost (exe : Path) (resolved : Option Path) : Host where
  windows := false
  canonical? _ := resolved
  answer
    | .env _ => none
    | .find _ => some exe
    | .run _ _ => .ok "clang version 17.0.6"

theorem driverHost_offersDriver (exe : Path) (resolved : Option Path) :
    (driverHost exe resolved).OffersDriver exe "17.0" :=
  ⟨rfl, rfl, "clang version 17.0.6", rfl, rfl⟩

/-- The link to a driver is followed before its directory is taken; a bare name that leads nowhere has none. -/
theorem linked_driver_library_placed :
    let linked := driverHost (.ofText "/usr/bin/clang++") (some (.ofText "/usr/lib/llvm-14/bin/clang++"))
    let bare := driverHost (.ofText "clang++") none
    linked.OffersDriver (.ofText "/usr/bin/clang++") "17.0" ∧ bare.OffersDriver (.ofText "clang++") "17.0" ∧
      (∃ libraryDir, Probe.clangDriver.outcome linked =
          .ok (some ⟨libraryDir, some (.ofText "/usr/bin/clang++"), some "17.0"⟩) ∧
        libraryDir.place = ((Path.ofText "/usr/lib/llvm-14/bin").join (.ofText "../lib")).place) ∧
      Probe.clangDriver.outcome bare = .error (.layout (.ofText "clang++") "driver path has no parent directory") := by
  intro linked bare
  have linkedOffers := driverHost_offersDriver (.ofText "/usr/bin/clang++")
    (some (.ofText "/usr/lib/llvm-14/bin/clang++"))
  have bareOffers := driverHost_offersDriver (.ofText "clang++") none
  have canonical : (Path.ofText "/usr/lib/llvm-14/bin/clang++").IsCanonical := ⟨rfl, by decide⟩
  have parent : (Path.ofText "/usr/lib/llvm-14/bin/clang++").parent? = some (.ofText "/usr/lib/llvm-14/bin") := by
    cbv
  obtain ⟨libraryDir, finds, -, beside⟩ := (driver_library_placed linked _ _ linkedOffers).placed _ parent rfl
  have noDirectory : (Path.ofText "clang++").NoDirectory := (Path.directory?_eq_none_iff _).mp (by cbv)
  exact ⟨linkedOffers, bareOffers, ⟨libraryDir, finds, beside canonical⟩,
    (driver_library_placed bare _ _ bareOffers).reason noDirectory⟩

/-- A driver in the working directory that links cannot be followed to: its library is looked for in the working
directory, not in the one above. -/
theorem dotted_driver_library_misplaced :
    let host := driverHost (.ofText "./clang++") none
    host.OffersDriver (.ofText "./clang++") "17.0" ∧ host.canonical? (.ofText "./clang++") = none ∧
      (Path.ofText "./clang++").parent? = some (.ofText ".") ∧ (Path.ofText ".").isEmpty = false ∧
      Probe.clangDriver.outcome host = .ok (some ⟨.ofText "lib", some (.ofText "./clang++"), some "17.0"⟩) ∧
      (Path.ofText "lib").place ≠ ((Path.ofText ".").join (.ofText "../lib")).place := by
  intro host
  have offers := driverHost_offersDriver (.ofText "./clang++") none
  have parent : (Path.ofText "./clang++").parent? = some (.ofText ".") := by cbv
  have prefixed : Probe.installPrefix? (driverHost (.ofText "./clang++") none).canonical? (.ofText "./clang++") =
      some ⟨[]⟩ := by cbv
  have finds := Probe.clangDriver_outcome offers
  rw [prefixed] at finds
  have elsewhere : (Path.ofText "lib").place ≠ ((Path.ofText ".").join (.ofText "../lib")).place := by decide
  exact ⟨offers, rfl, parent, rfl, finds, elsewhere⟩

/-- What the search path of a machine holds is a file below the root, and links are followed to it. -/
theorem Machine.find_canonical {m : Machine} {name : String} {exe : Path} (descends : FileTree.Descends m.workingDir)
    (found : m.find name = some exe) :
    ∃ canonical dir, m.site.canonical? exe = some canonical ∧ canonical.IsCanonical ∧
      canonical.parent? = some dir := by
  have executable : m.isExecutable exe = true := List.find?_some found
  rw [isExecutable, FileTree.follow] at executable
  cases led : m.tree.resolve m.workingDir exe with
  | error e => simp [led, bind, Except.bind] at executable
  | ok route =>
    have belowRoot : route ≠ [] := by
      rintro rfl
      simp [led, bind, Except.bind, FileTree.node?, pure, Except.pure] at executable
    have followed : m.tree.canonical? m.workingDir exe = some (FileTree.routePath route) := by
      rw [FileTree.canonical?, led]
    have named : (FileTree.routePath route).names ≠ [] := by
      rwa [FileTree.names_routePath (m.tree.resolve_descends descends led)]
    obtain ⟨dir, parent⟩ := Path.exists_parent_of_names_ne_nil named
    exact ⟨_, dir, followed, m.tree.canonical?_isCanonical descends followed, parent⟩

/-- On a machine, the library directory of a driver is `../lib` in the directory that links lead to. -/
theorem Machine.driver_library_beside (m : Machine) (timeout : Nat) (descends : FileTree.Descends m.workingDir)
    {exe : Path} {version : String} (offers : (m.site.host timeout).OffersDriver exe version) :
    ∃ canonical dir libraryDir, m.site.canonical? exe = some canonical ∧ canonical.parent? = some dir ∧
      Probe.clangDriver.outcome (m.site.host timeout) = .ok (some ⟨libraryDir, some exe, some version⟩) ∧
      libraryDir.place = (dir.join (.ofText "../lib")).place := by
  obtain ⟨canonical, dir, followed, isCanonical, parent⟩ := m.find_canonical descends offers.found
  have filled := (isCanonical.parent parent).isEmpty_eq_false
  refine ⟨canonical, dir, _, followed, parent, ?_, isCanonical.place_base_lib parent⟩
  have directory := Path.directory?_eq_some.mpr ⟨parent, filled⟩
  have resolved : (m.site.host timeout).canonical? exe = some canonical := followed
  rw [Probe.clangDriver_outcome offers, Probe.installPrefix?_eq, resolved, Option.getD_some, directory]
  rfl

end ClangAccess
