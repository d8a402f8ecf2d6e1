import ClangAccess.Proofs.SearchOrder
import ClangAccess.Site
import Mathlib.Data.List.TakeWhile

namespace ClangAccess

/-- A host whose own notes are for the debug level. -/
def Host.Calm (host : Host) : Prop :=
  ∀ query, ∀ r ∈ host.remarks query, r.level = .debug

namespace Inquiry

/-- An inquiry that warns of nothing, whatever it is told. -/
inductive Calm {α : Type} : Inquiry α → Prop
  | done {result} : Calm (.done result)
  | debug {text rest} : Calm rest → Calm (.debug text rest)
  | ask {query next} : (∀ answer, Calm (next answer)) → Calm (.ask query next)

variable {α : Type}

theorem Calm.run {program : Path} {args : List String} {next : String → Inquiry (Except ProbeError α)}
    (calm : ∀ output, Calm (next output)) : Calm (.run program args next) :=
  .ask fun answer =>
    match answer with
    | .ok output => calm output
    | .error _ => .done

theorem Calm.log_debug {host : Host} {inquiry : Inquiry α} (calm : inquiry.Calm) (hostCalm : host.Calm) :
    ∀ r ∈ (inquiry.conduct host).log, r.level = .debug := by
  induction calm with
  | done => exact List.forall_mem_nil _
  | debug _ ih => exact List.forall_mem_cons.mpr ⟨rfl, ih⟩
  | @ask query _ _ ih => exact List.forall_mem_append.mpr ⟨hostCalm query, ih (host.answer query)⟩

end Inquiry

namespace Probe

theorem inquireLlvmConfig_calm (platform : Platform) : (inquireLlvmConfig platform).Calm := by
  refine .ask fun answer => ?_
  cases answer with
  | none => exact .done
  | some exe =>
    refine .debug (.run fun said => ?_)
    cases plainVersion? said with
    | none => exact .done
    | some version =>
      refine .debug (.run fun output => ?_)
      dsimp only
      split
      · exact .done
      · exact .debug .done

theorem inquireClangDriver_calm (platform : Platform) : (inquireClangDriver platform).Calm := by
  unfold inquireClangDriver
  split
  · exact .done
  · refine .ask fun answer => ?_
    cases answer with
    | none => exact .done
    | some exe =>
      refine .debug (.run fun said => .debug ?_)
      cases driverVersion? said with
      | none => exact .done
      | some version =>
        dsimp only
        split <;> exact .done

theorem inquireWindowsClangDriver_calm (platform : Platform) : (inquireWindowsClangDriver platform).Calm := by
  unfold inquireWindowsClangDriver
  split
  · refine .ask fun answer => ?_
    cases answer with
    | none => exact .done
    | some exe =>
      dsimp only
      split
      · exact .done
      · exact .debug .done
  · exact .done

/-- No probe warns of anything. What it fails with is for the search to tell. -/
theorem inquire_calm (platform : Platform) (probe : Probe) : (probe.inquire platform).Calm := by
  cases probe with
  | explicit dir => exact .done
  | libclangPath => exact .ask fun _ => .done
  | llvmLibDir => exact .ask fun _ => .done
  | llvmConfig => exact inquireLlvmConfig_calm platform
  | clangDriver => exact inquireClangDriver_calm platform
  | windowsClangDriver => exact inquireWindowsClangDriver_calm platform

/-- What a search warns of when it comes by a probe: the failure, if there is one. -/
def warning? (host : Host) (probe : Probe) : Option Record :=
  match probe.outcome host with
  | .ok _ => none
  | .error e => some (.warn s!"looking for libclang: {probe.source.label} failed, trying the next source: {e.message}")

end Probe

namespace Record

/-- The records of some levels. -/
def ofLevels (keep : LogLevel → Bool) (records : List Record) : List Record :=
  records.filter fun r => keep r.level

theorem ofLevels_debug {keep : LogLevel → Bool} {log : List Record} (quiet : keep .debug = false)
    (debug : ∀ r ∈ log, r.level = .debug) : ofLevels keep log = [] := by
  refine List.filter_eq_nil_iff.mpr fun r member => ?_
  rw [debug r member, quiet]
  exact Bool.false_ne_true

end Record

namespace Locator

variable {host : Host} {keep : LogLevel → Bool} {probe : Probe} {tried : List Attempt} {found : Discovery}

theorem search_found_warnings (hostCalm : host.Calm) (quiet : keep .debug = false) (rest : List Probe)
    (finds : probe.outcome host = .ok (some found)) :
    Record.ofLevels keep ((search host.toPlatform (probe :: rest) tried).conduct host).log = [] := by
  have silent := (probe.inquire_calm host.toPlatform).log_debug hostCalm
  simp only [Probe.outcome] at finds
  simp only [search, Inquiry.debug, Inquiry.conduct, Inquiry.conduct_bind, finds]
  refine Record.ofLevels_debug quiet (List.forall_mem_cons.mpr ⟨rfl, List.forall_mem_append.mpr ⟨silent, ?_⟩⟩)
  exact List.forall_mem_singleton.mpr rfl

theorem search_missed_warnings (hostCalm : host.Calm) (quiet : keep .debug = false) (alarmed : keep .warn = true)
    (rest : List Probe) (misses : probe.Misses host) :
    Record.ofLevels keep ((search host.toPlatform (probe :: rest) tried).conduct host).log =
      (probe.warning? host).toList ++ Record.ofLevels keep
        ((search host.toPlatform rest (tried ++ [probe.attempt host])).conduct host).log := by
  have silent := Record.ofLevels_debug quiet ((probe.inquire_calm host.toPlatform).log_debug hostCalm)
  simp only [Record.ofLevels] at silent ⊢
  simp only [Probe.Misses, Probe.outcome] at misses
  simp only [search, Inquiry.debug, Inquiry.warn, Inquiry.conduct, Inquiry.conduct_bind, Probe.attempt,
    Probe.reason, Probe.warning?, Probe.outcome]
  cases came : ((probe.inquire host.toPlatform).conduct host).result with
  | ok gave =>
    cases gave with
    | none => simp [silent, Record.debug, Inquiry.conduct, quiet]
    | some found => exact absurd came (misses found)
  | error e => simp [silent, Record.debug, Record.warn, Inquiry.conduct, quiet, alarmed]

/-- The warnings of a search are those of the probes before the first that finds something. -/
theorem search_warnings (hostCalm : host.Calm) (quiet : keep .debug = false) (alarmed : keep .warn = true)
    (probes : List Probe) (tried : List Attempt) :
    Record.ofLevels keep ((search host.toPlatform probes tried).conduct host).log =
      (probes.takeWhile fun probe => (probe.found? host).isNone).filterMap (Probe.warning? host) := by
  induction probes generalizing tried with
  | nil => rfl
  | cons first rest ih =>
    cases gave : first.found? host with
    | some found =>
      rw [List.takeWhile_cons_of_neg (by simp [gave])]
      exact search_found_warnings hostCalm quiet rest (Probe.found?_eq_some.mp gave)
    | none =>
      have misses := Probe.found?_eq_none.mp gave
      rw [search_missed_warnings hostCalm quiet alarmed rest misses, ih,
        List.takeWhile_cons_of_pos (by simp [gave]), List.filterMap_cons]
      cases first.warning? host <;> rfl

theorem tellVariables_warnings {α : Type} (hostCalm : host.Calm) (quiet : keep .debug = false)
    (inquiry : Inquiry α) (names : List String) :
    Record.ofLevels keep ((tellVariables inquiry names).conduct host).log =
      Record.ofLevels keep (inquiry.conduct host).log := by
  induction names with
  | nil => rfl
  | cons name names ih =>
    have silent := Record.ofLevels_debug quiet (hostCalm (.env name))
    simp only [Record.ofLevels] at silent ih ⊢
    simp [tellVariables, Inquiry.env, Inquiry.debug, Inquiry.conduct, silent, Record.debug, quiet, ih]

/-- How much is told makes no difference to what is warned of. -/
theorem locate_warnings (hostCalm : host.Calm) (quiet : keep .debug = false) (alarmed : keep .warn = true)
    (l : Locator) (verbosity : LogLevel) :
    Record.ofLevels keep ((l.locate verbosity host.toPlatform).conduct host).log =
      (l.probes.takeWhile fun probe => (probe.found? host).isNone).filterMap (Probe.warning? host) := by
  unfold locate
  split
  · rw [tellVariables_warnings hostCalm quiet, search_warnings hostCalm quiet alarmed]
  · exact search_warnings hostCalm quiet alarmed l.probes []

end Locator

/-- The notes that a machine's host makes of tools are for the debug level. -/
theorem Site.host_calm (s : Site) (timeout : Nat) : (s.host timeout).Calm := by
  intro query r member
  cases query with
  | env => exact absurd member List.not_mem_nil
  | find => exact absurd member List.not_mem_nil
  | run program args =>
    simp only [host] at member
    split at member
    · rw [List.mem_singleton.mp member]
      rfl
    · exact absurd member List.not_mem_nil

/-- The search of some probes at three verbosities: what is found and asked is the same but for the variables that
are told at debug level, and what is warned of are the failures before the first finding, one warning each. -/
structure LoggingTransparent (probes : List Probe) (host : Host)
    (account : LogLevel → Account (Except ClangError Toolchain)) : Prop where
  results : (account .warn).result = (account .off).result ∧ (account .debug).result = (account .off).result
  callsAtWarn : (account .warn).calls = (account .off).calls
  callsAtDebug : (account .debug).calls =
    [.env "PATH", .env "LD_LIBRARY_PATH", .env "LIBCLANG_PATH", .env "LLVM_LIB_DIR"] ++ (account .off).calls
  warnings : Record.admitted .warn (account .warn).log =
    (Record.admitted .debug (account .debug).log).filter fun r => r.level = .warn
  failures : ∃ before after, probes = before ++ after ∧ (∀ p ∈ before, ∀ d, p.outcome host ≠ .ok (some d)) ∧
    (∀ p ∈ after.head?, ∃ d, p.outcome host = .ok (some d)) ∧
    Record.admitted .warn (account .warn).log = before.filterMap (Probe.warning? host)

/-- To be told more of a search does not change it. -/
theorem search_same_at_every_verbosity (l : Locator) (host : Host) (hostCalm : host.Calm) :
    LoggingTransparent l.probes host fun verbosity => (l.locate verbosity host.toPlatform).conduct host := by
  have plain := l.locate_account .off host
  have atWarn := l.locate_account .warn host
  have atDebug := l.locate_account .debug host
  have warned : Record.ofLevels LogLevel.warn.admits _ = _ := Locator.locate_warnings hostCalm rfl rfl l .warn
  constructor
  case results => exact ⟨atWarn.1.trans plain.1.symm, atDebug.1.trans plain.1.symm⟩
  case callsAtWarn => exact atWarn.2.trans plain.2.symm
  case callsAtDebug =>
    rw [atDebug.2, plain.2]
    rfl
  case warnings =>
    have told : Record.ofLevels (fun level => level = .warn && LogLevel.debug.admits level) _ = _ :=
      Locator.locate_warnings hostCalm rfl rfl l .debug
    rw [Record.admitted, Record.admitted, List.filter_filter]
    exact warned.trans told.symm
  case failures =>
    refine ⟨_, _, List.takeWhile_append_dropWhile.symm, ?_, ?_, warned⟩
    · intro p member
      have nothing := List.mem_takeWhile_imp member
      exact Probe.found?_eq_none.mp (Option.isNone_iff_eq_none.mp nothing)
    · intro p first
      have stop := List.head?_dropWhile_not (fun p => (Probe.found? host p).isNone) l.probes
      rw [first] at stop
      obtain ⟨d, finds⟩ := Option.isSome_iff_exists.mp (by simpa using stop)
      exact ⟨d, Probe.found?_eq_some.mp finds⟩

/-- A machine on which every tool is found and none can be started. -/
def brokenToolsSite : Site where
  env name := if name = "LLVM_LIB_DIR" then some [0xFF] else none
  find name := some (.ofText name)
  launch _ _ := .refused "no such file"
  canonical? _ := none

def mixedProbes : List Probe := [.llvmConfig, .libclangPath, .clangDriver, .llvmLibDir, .llvmConfig]

/-- Two failures and one absent source before a finding, and a failure that is not come by. -/
theorem broken_tools_warned_of :
    let host := brokenToolsSite.host Site.defaultTimeout
    host.Calm ∧ LoggingTransparent mixedProbes host (fun verbosity =>
        ((⟨mixedProbes⟩ : Locator).locate verbosity host.toPlatform).conduct host) ∧
      Probe.llvmConfig.outcome host = .error (.spawn (.ofText "llvm-config") "no such file") ∧
      Probe.libclangPath.outcome host = .ok none ∧
      Probe.clangDriver.outcome host = .error (.spawn (.ofText "clang++") "no such file") ∧
      Probe.llvmLibDir.outcome host = .ok (some (.directory ⟨[0xFF, 0x2F, 0x62, 0x69, 0x6E]⟩)) :=
  have calm := Site.host_calm brokenToolsSite Site.defaultTimeout
  ⟨calm, search_same_at_every_verbosity ⟨mixedProbes⟩ _ calm, rfl, rfl, rfl, rfl⟩

end ClangAccess
