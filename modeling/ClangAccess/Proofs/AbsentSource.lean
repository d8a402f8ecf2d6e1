import ClangAccess.Proofs.DriverDirectory
import ClangAccess.Proofs.Overrides

namespace ClangAccess

namespace Probe

/-- The source of a probe is not there, in the sense of what is then said of it. -/
inductive Absent (host : Host) : Probe → Prop
  | notGiven {dir} : dir.isEmpty = true → Absent host (.explicit dir)
  | pathUnset : (∀ value : Bytes, host.answer (.env "LIBCLANG_PATH") = some value → BlankText value) →
      Absent host .libclangPath
  | rootUnset : (∀ value : Bytes, host.answer (.env "LLVM_LIB_DIR") = some value → BlankText value) →
      Absent host .llvmLibDir
  | noTool : host.answer (.find "llvm-config") = none → Absent host .llvmConfig
  | driverOnWindows : host.windows = true → Absent host .clangDriver
  | noDriver : host.answer (.find "clang++") = none → Absent host .clangDriver
  | notOnWindows : host.windows = false → Absent host .windowsClangDriver
  | noWindowsDriver : host.answer (.find "clang++") = none → Absent host .windowsClangDriver

/-- A driver that is found on Windows but lies in no directory. It is there, and still it is called absent. -/
inductive Overlooked (host : Host) : Probe → Prop
  | driver {exe : Path} : host.windows = true → host.answer (.find "clang++") = some exe → exe.NoDirectory →
      Overlooked host .windowsClangDriver

/-- What an error of a probe is due to: the tool was found, and what it went on to do or where it lies was of no use. -/
inductive Cause (host : Host) : Probe → ProbeError → Prop
  | toolFailed {exe e} : host.answer (.find "llvm-config") = some exe →
      host.answer (.run exe ["--version"]) = .error e → Cause host .llvmConfig e
  | toolUnversioned {exe said} : host.answer (.find "llvm-config") = some exe →
      host.answer (.run exe ["--version"]) = .ok said → plainVersion? said = none →
      Cause host .llvmConfig (.unparseableVersion exe said)
  | toolMute {exe said version flag e} : host.answer (.find "llvm-config") = some exe →
      host.answer (.run exe ["--version"]) = .ok said → plainVersion? said = some version →
      flag = (if host.windows then "--bindir" else "--libdir") → host.answer (.run exe [flag]) = .error e →
      Cause host .llvmConfig e
  | toolBlank {exe said version flag output} : host.answer (.find "llvm-config") = some exe →
      host.answer (.run exe ["--version"]) = .ok said → plainVersion? said = some version →
      flag = (if host.windows then "--bindir" else "--libdir") → host.answer (.run exe [flag]) = .ok output →
      TrimmedFirstLine output "" →
      Cause host .llvmConfig (.toolFailed (exe.display ++ " " ++ flag) "exit status: 0" "<empty>")
  | driverFailed {exe e} : host.windows = false → host.answer (.find "clang++") = some exe →
      host.answer (.run exe ["--version"]) = .error e → Cause host .clangDriver e
  | driverUnversioned {exe said} : host.windows = false → host.answer (.find "clang++") = some exe →
      host.answer (.run exe ["--version"]) = .ok said → driverVersion? said = none →
      Cause host .clangDriver (.unparseableVersion exe ((firstLine? said).getD ""))
  | driverMisplaced {exe said version} : host.windows = false → host.answer (.find "clang++") = some exe →
      host.answer (.run exe ["--version"]) = .ok said → driverVersion? said = some version →
      ((host.canonical? exe).getD exe).NoDirectory →
      Cause host .clangDriver (.layout exe "driver path has no parent directory")

end Probe

theorem Host.Unset.blank {host : Host} {name : String} (unset : host.Unset name) :
    ∀ value : Bytes, host.answer (.env name) = some value → BlankText value :=
  fun value set => Probe.isBlankValue_iff.mp (unset value set)

theorem Host.filled?_eq_none_of_blank {host : Host} {name : String}
    (blank : ∀ value : Bytes, host.answer (.env name) = some value → BlankText value) : host.filled? name = none := by
  refine Option.filter_eq_none_iff.mpr fun value set => ?_
  simp [Probe.isBlankValue_iff.mpr (blank value set)]

namespace ProbeRun

variable {host : Host} {probe : Probe} {outcome : ProbeOutcome} {asked : List Query} {e : ProbeError}

/-- Nothing is found in silence only where nothing is there, or where a driver on Windows is overlooked. -/
theorem absent_or_overlooked (run : ProbeRun host probe outcome asked) (silent : outcome = .ok none) :
    probe.Absent host ∨ probe.Overlooked host := by
  cases run with
  | noDirectory empty => exact Or.inl (.notGiven empty)
  | pathUnset unset => exact Or.inl (.pathUnset unset.blank)
  | rootUnset unset => exact Or.inl (.rootUnset unset.blank)
  | noTool none => exact Or.inl (.noTool none)
  | driverOnWindows windows => exact Or.inl (.driverOnWindows windows)
  | noDriver _ none => exact Or.inl (.noDriver none)
  | notOnWindows elsewhere => exact Or.inl (.notOnWindows elsewhere)
  | noWindowsDriver _ none => exact Or.inl (.noWindowsDriver none)
  | windowsDriverMisplaced windows found misplaced =>
    exact Or.inr (.driver windows found ((Path.directory?_eq_none_iff _).mp misplaced))
  | _ => exact nomatch silent

theorem cause (run : ProbeRun host probe outcome asked) (failed : outcome = .error e) : probe.Cause host e := by
  cases run with
  | toolFailed found ran =>
    cases failed
    exact .toolFailed found ran
  | toolUnversioned found ran unversioned =>
    cases failed
    exact .toolUnversioned found ran unversioned
  | toolMute found ran parsed mute =>
    cases failed
    exact .toolMute found ran parsed rfl mute
  | @toolBlank _ _ _ output found ran parsed reran blank =>
    cases failed
    have reported := reportedDirectory_spec output
    rw [String.isEmpty_iff.mp blank] at reported
    exact .toolBlank found ran parsed rfl reran reported
  | driverFailed elsewhere found ran =>
    cases failed
    exact .driverFailed elsewhere found ran
  | driverUnversioned elsewhere found ran unversioned =>
    cases failed
    exact .driverUnversioned elsewhere found ran unversioned
  | driverMisplaced elsewhere found ran parsed misplaced =>
    cases failed
    rw [Probe.installPrefix?_eq, Option.map_eq_none_iff] at misplaced
    exact .driverMisplaced elsewhere found ran parsed ((Path.directory?_eq_none_iff _).mp misplaced)
  | _ => exact nomatch failed

end ProbeRun

namespace Probe

variable {host : Host} {probe : Probe}

theorem Absent.outcome_eq (absent : probe.Absent host) : probe.outcome host = .ok none := by
  cases absent with
  | notGiven empty => exact explicit_empty empty
  | pathUnset blank => rw [libclangPath_outcome, Host.filled?_eq_none_of_blank blank, Option.map_none]
  | rootUnset blank => rw [llvmLibDir_outcome, Host.filled?_eq_none_of_blank blank, Option.map_none]
  | noTool none => simp only [outcome, inquire, inquireLlvmConfig, Inquiry.find, Inquiry.conduct, none]
  | driverOnWindows windows => simp only [outcome, inquire, inquireClangDriver, windows, if_true, Inquiry.conduct]
  | noDriver none =>
    simp only [outcome, inquire, inquireClangDriver]
    split
    · rfl
    · simp only [Inquiry.find, Inquiry.conduct, none]
  | notOnWindows elsewhere =>
    simp only [outcome, inquire, inquireWindowsClangDriver, elsewhere, Bool.false_eq_true, if_false, Inquiry.conduct]
  | noWindowsDriver none =>
    simp only [outcome, inquire, inquireWindowsClangDriver]
    split
    · simp only [Inquiry.find, Inquiry.conduct, none]
    · rfl

theorem Overlooked.outcome_eq (overlooked : probe.Overlooked host) : probe.outcome host = .ok none := by
  cases overlooked with
  | driver windows found misplaced =>
    simp only [outcome, inquire, inquireWindowsClangDriver, windows, if_true, Inquiry.find, Inquiry.conduct, found,
      (Path.directory?_eq_none_iff _).mpr misplaced]

end Probe

theorem head?_toList_append {s : String} (t : String) (filled : s.toList ≠ []) :
    (s ++ t).toList.head? = s.toList.head? := by
  rw [String.toList_append, List.head?_append_of_ne_nil _ filled]

theorem getLast?_toList_append (s : String) {t : String} (filled : t.toList ≠ []) :
    (s ++ t).toList.getLast? = t.toList.getLast? := by
  rw [String.toList_append, List.getLast?_append_of_ne_nil _ filled]

/-- How each error begins or ends. What is said of absent sources neither begins nor ends like that. -/
theorem ProbeError.message_edges (e : ProbeError) :
    e.message.toList.head? = some 'c' ∨ e.message.toList.head? = some 'u' ∨
      e.message.toList.getLast? = some 's' ∨ e.message.toList.getLast? = some '"' := by
  cases e with
  | spawn program reason =>
    refine Or.inl ?_
    change ("could not run " ++ program.display ++ ": " ++ reason).toList.head? = _
    rw [String.append_assoc, String.append_assoc, head?_toList_append _ (by decide)]
    decide
  | timedOut program microseconds =>
    refine Or.inr (Or.inr (Or.inl ?_))
    change (program.display ++ " timed out after " ++ toString (microseconds / 1000) ++ "ms").toList.getLast? = _
    rw [getLast?_toList_append _ (by decide)]
    decide
  | toolFailed command status output =>
    refine Or.inl ?_
    change ("command failed with status " ++ status ++ ": " ++ command ++ "\noutput was:\n" ++
      output).toList.head? = _
    iterate 4 rw [String.append_assoc]
    rw [head?_toList_append _ (by decide)]
    decide
  | unparseableVersion program output =>
    refine Or.inr (Or.inr (Or.inr ?_))
    change (program.display ++ " reported an unrecognised version: " ++ quoted output).toList.getLast? = _
    rw [quoted, ← String.append_assoc, getLast?_toList_append _ (by decide)]
    decide
  | layout program reason =>
    refine Or.inr (Or.inl ?_)
    change ("unexpected install layout around " ++ program.display ++ ": " ++ reason).toList.head? = _
    rw [String.append_assoc, String.append_assoc, head?_toList_append _ (by decide)]
    decide

theorem Probe.unavailable_edges (probe : Probe) :
    probe.unavailable.toList.head? ≠ some 'c' ∧ probe.unavailable.toList.head? ≠ some 'u' ∧
      probe.unavailable.toList.getLast? ≠ some 's' ∧ probe.unavailable.toList.getLast? ≠ some '"' := by
  cases probe with
  | explicit dir =>
    rw [show (Probe.explicit dir).unavailable = "no directory given" from rfl]
    decide
  | _ => decide

theorem ProbeError.message_ne_unavailable (e : ProbeError) (probe : Probe) : e.message ≠ probe.unavailable := by
  obtain ⟨notC, notU, notS, notQuote⟩ := probe.unavailable_edges
  intro same
  rw [← same] at notC notU notS notQuote
  rcases e.message_edges with edge | edge | edge | edge
  · exact notC edge
  · exact notU edge
  · exact notS edge
  · exact notQuote edge

/-- What a search that found nothing reports of one of its probes: that the source is absent, if it is or if it is
overlooked, and the error with its cause if not. The two never read alike. -/
structure AttemptTold (host : Host) (probe : Probe) (attempt : Attempt) : Prop where
  source : attempt.source = probe.source.label
  absent : attempt.reason = probe.unavailable ↔ probe.Absent host ∨ probe.Overlooked host
  broken : ¬(probe.Absent host ∨ probe.Overlooked host) → ∃ e, probe.Cause host e ∧ attempt.reason = e.message

/-- When a probe finds nothing in silence, and what it does when not. -/
structure SilenceExplained (host : Host) (probe : Probe) : Prop where
  silent : probe.outcome host = .ok none ↔ probe.Absent host ∨ probe.Overlooked host
  otherwise : ¬(probe.Absent host ∨ probe.Overlooked host) →
    (∃ found, probe.outcome host = .ok (some found)) ∨ ∃ e, probe.outcome host = .error e ∧ probe.Cause host e

section

variable {host : Host} {probe : Probe}

theorem Probe.outcome_eq_none_iff : probe.outcome host = .ok none ↔ probe.Absent host ∨ probe.Overlooked host := by
  constructor
  · exact (probe.runs host).absent_or_overlooked
  · rintro (absent | overlooked)
    · exact absent.outcome_eq
    · exact overlooked.outcome_eq

theorem Probe.silenceExplained (host : Host) (probe : Probe) : SilenceExplained host probe := by
  refine ⟨outcome_eq_none_iff, fun present => ?_⟩
  cases came : probe.outcome host with
  | error e => exact Or.inr ⟨e, rfl, (probe.runs host).cause came⟩
  | ok gave =>
    cases gave with
    | none => exact absurd (outcome_eq_none_iff.mp came) present
    | some found => exact Or.inl ⟨found, rfl⟩

theorem Probe.Misses.told (misses : probe.Misses host) : AttemptTold host probe (probe.attempt host) := by
  cases came : probe.outcome host with
  | error e =>
    have reason : (probe.attempt host).reason = e.message := by simp only [Probe.attempt, Probe.reason, came]
    have present : ¬(probe.Absent host ∨ probe.Overlooked host) := by
      intro absent
      cases came.symm.trans (Probe.outcome_eq_none_iff.mpr absent)
    refine ⟨rfl, iff_of_false ?_ present, fun _ => ⟨e, (probe.runs host).cause came, reason⟩⟩
    rw [reason]
    exact e.message_ne_unavailable probe
  | ok gave =>
    cases gave with
    | none =>
      have reason : (probe.attempt host).reason = probe.unavailable := by
        simp only [Probe.attempt, Probe.reason, came]
      have absent := Probe.outcome_eq_none_iff.mp came
      exact ⟨rfl, iff_of_true reason absent, fun present => absurd absent present⟩
    | some found => exact absurd came (misses found)

end

/-- A search that finds nothing has tried all of its probes in vain. -/
theorem Locator.locate_exhausted {l : Locator} {verbosity : LogLevel} {host : Host} {attempts : List Attempt}
    (exhausted : ((l.locate verbosity host.toPlatform).conduct host).result = .error (.discoveryExhausted attempts)) :
    (∀ probe ∈ l.probes, probe.Misses host) ∧ attempts = l.probes.map (Probe.attempt host) := by
  rw [(l.locate_account verbosity host).1] at exhausted
  obtain ⟨before, probe, after, found, split, missed, finds⟩ | missed := finds_or_misses host l.probes
  · rw [split, (search_first missed finds).1] at exhausted
    exact nomatch exhausted
  · rw [(search_exhausted missed).1, List.nil_append] at exhausted
    exact ⟨missed, (ClangError.discoveryExhausted.inj (Except.error.inj exhausted)).symm⟩

/-- A probe that says nothing has an absent source, but for the driver that is overlooked on Windows. So a report says
of no other source that is there that it is not. -/
theorem silence_told_as_absence (host : Host) :
    (∀ probe, SilenceExplained host probe) ∧
      ∀ (l : Locator) (verbosity : LogLevel) (attempts : List Attempt),
        ((l.locate verbosity host.toPlatform).conduct host).result = .error (.discoveryExhausted attempts) →
        List.Forall₂ (AttemptTold host) l.probes attempts := by
  refine ⟨Probe.silenceExplained host, fun l verbosity attempts exhausted => ?_⟩
  obtain ⟨missed, rfl⟩ := l.locate_exhausted exhausted
  exact List.forall₂_map_right_iff.mpr (List.forall₂_same.mpr fun probe member => (missed probe member).told)

/-- A host on which tools are found where it says and none can be run. -/
def brokenHost (windows : Bool) (find : String → Option Path) : Host where
  windows := windows
  canonical? _ := none
  answer
    | .env _ => none
    | .find name => find name
    | .run program _ => .error (.spawn program "no such file")

/-- A tool that is there but does not run is not called absent. -/
theorem broken_tool_not_told_absent :
    let host := brokenHost false fun name => if name = "llvm-config" then some (.ofText "t") else none
    let attempts : List Attempt := [⟨"llvm-config", "could not run t: no such file"⟩,
      ⟨"clang++", "'clang++' not found in PATH (or running on Windows)"⟩]
    (((⟨[.llvmConfig, .clangDriver]⟩ : Locator).locate .off host.toPlatform).conduct host).result =
        .error (.discoveryExhausted attempts) ∧
      List.Forall₂ (AttemptTold host) [.llvmConfig, .clangDriver] attempts := by
  intro host attempts
  have exhausted : (((⟨[.llvmConfig, .clangDriver]⟩ : Locator).locate .off host.toPlatform).conduct host).result =
      .error (.discoveryExhausted attempts) := rfl
  exact ⟨exhausted, (silence_told_as_absence host).2 ⟨[.llvmConfig, .clangDriver]⟩ .off attempts exhausted⟩

/-- The driver that is overlooked: it is found on Windows, and the report says that it is not. -/
theorem found_driver_told_absent :
    let host := brokenHost true fun name => if name = "clang++" then some (.ofText "clang++") else none
    host.windows = true ∧ host.answer (.find "clang++") = some (.ofText "clang++") ∧
      ¬Probe.windowsClangDriver.Absent host ∧ Probe.windowsClangDriver.outcome host = .ok none ∧
      (((⟨[.windowsClangDriver]⟩ : Locator).locate .off host.toPlatform).conduct host).result =
        .error (.discoveryExhausted
          [⟨"clang++ (windows)", "'clang++' not found in PATH (or not running on Windows)"⟩]) := by
  intro host
  have found : host.answer (.find "clang++") = some (.ofText "clang++") := rfl
  have noDirectory : (Path.ofText "clang++").NoDirectory := (Path.directory?_eq_none_iff _).mp (by cbv)
  have overlooked : Probe.windowsClangDriver.Overlooked host := .driver rfl found noDirectory
  have missed : ∀ probe ∈ [Probe.windowsClangDriver], probe.Misses host := by
    intro probe member
    rw [List.mem_singleton.mp member]
    intro gave came
    cases overlooked.outcome_eq.symm.trans came
  refine ⟨rfl, found, ?_, overlooked.outcome_eq, ?_⟩
  · intro absent
    cases absent with
    | notOnWindows elsewhere => cases elsewhere
    | noWindowsDriver none => cases none
  · rw [(Locator.locate_account _ .off host).1, (Locator.search_exhausted missed).1]
    simp only [List.map_cons, List.map_nil, List.nil_append, Probe.attempt, Probe.reason, overlooked.outcome_eq]
    rfl

end ClangAccess
