import ClangAccess.Locator

namespace ClangAccess

/-- An inquiry that goes on with another asks the questions of both, one after the other. -/
theorem Inquiry.conduct_bind {α β : Type} (host : Host) (first : Inquiry α) (next : α → Inquiry β) :
    (first.bind next).conduct host =
      ⟨((next (first.conduct host).result).conduct host).result,
        (first.conduct host).calls ++ ((next (first.conduct host).result).conduct host).calls,
        (first.conduct host).log ++ ((next (first.conduct host).result).conduct host).log⟩ := by
  induction first with
  | done result => rfl
  | note record rest ih => simp only [Inquiry.bind, Inquiry.conduct, ih, List.cons_append]
  | ask query answered ih =>
    simp only [Inquiry.bind, Inquiry.conduct, ih, List.cons_append, List.append_assoc]

namespace Probe

/-- What comes of a probe on a host. -/
def outcome (host : Host) (probe : Probe) : ProbeOutcome :=
  ((probe.inquire host.toPlatform).conduct host).result

/-- What a probe asks of a host. -/
def calls (host : Host) (probe : Probe) : List Query :=
  ((probe.inquire host.toPlatform).conduct host).calls

/-- A probe finds nothing, be its source absent or broken. -/
def Misses (host : Host) (probe : Probe) : Prop :=
  ∀ found, probe.outcome host ≠ .ok (some found)

/-- What a probe finds, if it finds something. -/
def found? (host : Host) (probe : Probe) : Option Discovery :=
  match probe.outcome host with
  | .ok found => found
  | .error _ => none

theorem found?_eq_some {host : Host} {probe : Probe} {found : Discovery} :
    probe.found? host = some found ↔ probe.outcome host = .ok (some found) := by
  unfold found?
  split <;> rename_i came <;> simp [came]

theorem found?_eq_none {host : Host} {probe : Probe} : probe.found? host = none ↔ probe.Misses host := by
  simp only [Option.eq_none_iff_forall_ne_some, ne_eq, found?_eq_some, Misses]

/-- Why a probe found nothing. -/
def reason (host : Host) (probe : Probe) : String :=
  match probe.outcome host with
  | .ok _ => probe.unavailable
  | .error e => e.message

/-- A probe that found nothing, for the report. -/
def attempt (host : Host) (probe : Probe) : Attempt := ⟨probe.source.label, probe.reason host⟩

section

variable {host : Host} {dir : Path}

theorem explicit_finds (named : dir.isEmpty = false) :
    (explicit dir).outcome host = .ok (some (.directory dir)) := by
  simp only [outcome, inquire, Inquiry.conduct, named]
  rfl

theorem explicit_empty (empty : dir.isEmpty = true) : (explicit dir).outcome host = .ok none := by
  simp only [outcome, inquire, Inquiry.conduct, empty]
  rfl

theorem explicit_misses (empty : dir.isEmpty = true) : (explicit dir).Misses host := by
  intro found finds
  rw [explicit_empty empty] at finds
  cases finds

theorem explicit_attempt (empty : dir.isEmpty = true) :
    (explicit dir).attempt host = ⟨"explicit directory", "no directory given"⟩ := by
  simp only [attempt, reason, explicit_empty empty]
  rfl

end

end Probe

namespace Locator

variable {host : Host} {probe : Probe} {before rest : List Probe} {tried : List Attempt} {found : Discovery}

/-- A probe that finds something ends the search. -/
theorem search_found (finds : probe.outcome host = .ok (some found)) :
    let account := (search host.toPlatform (probe :: rest) tried).conduct host
    account.result = .ok (.ofDiscovery probe.source found) ∧ account.calls = probe.calls host := by
  simp only [Probe.outcome] at finds
  simp only [search, Inquiry.debug, Inquiry.conduct, Inquiry.conduct_bind, finds]
  exact ⟨trivial, List.append_nil _⟩

/-- A probe that misses is noted, and the search goes on as if it began with the next. -/
theorem search_missed (rest : List Probe) (misses : probe.Misses host) :
    let account := (search host.toPlatform (probe :: rest) tried).conduct host
    let later := (search host.toPlatform rest (tried ++ [probe.attempt host])).conduct host
    account.result = later.result ∧ account.calls = probe.calls host ++ later.calls := by
  simp only [Probe.Misses, Probe.outcome] at misses
  simp only [search, Inquiry.debug, Inquiry.warn, Inquiry.conduct, Inquiry.conduct_bind, Probe.attempt,
    Probe.reason, Probe.outcome]
  cases came : ((probe.inquire host.toPlatform).conduct host).result with
  | ok gave =>
    cases gave with
    | none => exact ⟨rfl, rfl⟩
    | some found => exact absurd came (misses found)
  | error e => exact ⟨rfl, rfl⟩

/-- The probes before the first that finds something are asked, and those after it are not. -/
theorem search_first (missed : ∀ probe ∈ before, probe.Misses host)
    (finds : probe.outcome host = .ok (some found)) :
    let account := (search host.toPlatform (before ++ probe :: rest) tried).conduct host
    account.result = .ok (.ofDiscovery probe.source found) ∧
      account.calls = (before ++ [probe]).flatMap (Probe.calls host) := by
  induction before generalizing tried with
  | nil => simpa using search_found finds
  | cons first before ih =>
    obtain ⟨result, calls⟩ := search_missed (before ++ probe :: rest) (missed first (List.mem_cons_self ..))
    obtain ⟨last, later⟩ := ih fun p member => missed p (List.mem_cons_of_mem _ member)
    refine ⟨result.trans last, calls.trans ?_⟩
    rw [later, List.cons_append, List.flatMap_cons]

theorem search_exhausted {probes : List Probe} (missed : ∀ probe ∈ probes, probe.Misses host) :
    let account := (search host.toPlatform probes tried).conduct host
    account.result = .error (.discoveryExhausted (tried ++ probes.map (Probe.attempt host))) ∧
      account.calls = probes.flatMap (Probe.calls host) := by
  induction probes generalizing tried with
  | nil => exact ⟨by simp [search, Inquiry.conduct], rfl⟩
  | cons first rest ih =>
    obtain ⟨result, calls⟩ := search_missed rest (missed first (List.mem_cons_self ..))
    obtain ⟨last, later⟩ := ih fun p member => missed p (List.mem_cons_of_mem _ member)
    refine ⟨result.trans (last.trans ?_), calls.trans ?_⟩
    · rw [List.append_assoc, List.map_cons, List.singleton_append]
    · rw [later, List.flatMap_cons]

theorem finds_or_misses (host : Host) (probes : List Probe) :
    (∃ before probe after found, probes = before ++ probe :: after ∧ (∀ p ∈ before, p.Misses host) ∧
      probe.outcome host = .ok (some found)) ∨ ∀ probe ∈ probes, probe.Misses host := by
  cases first : probes.findSome? (Probe.found? host) with
  | none => exact Or.inr fun p member => Probe.found?_eq_none.mp (List.findSome?_eq_none_iff.mp first p member)
  | some found =>
    obtain ⟨before, probe, after, split, finds, earlier⟩ := List.findSome?_eq_some_iff.mp first
    exact Or.inl ⟨before, probe, after, found, split, fun p member => Probe.found?_eq_none.mp (earlier p member),
      Probe.found?_eq_some.mp finds⟩

theorem tellVariables_account {α : Type} (inquiry : Inquiry α) (names : List String) :
    let account := (tellVariables inquiry names).conduct host
    account.result = (inquiry.conduct host).result ∧
      account.calls = names.map .env ++ (inquiry.conduct host).calls := by
  induction names with
  | nil => exact ⟨rfl, rfl⟩
  | cons name names ih =>
    obtain ⟨result, calls⟩ := ih
    refine ⟨result, ?_⟩
    rw [List.map_cons, List.cons_append, ← calls]
    rfl

/-- A search that tells all asks for its variables first, and is the same search after that. -/
theorem locate_account (l : Locator) (verbosity : LogLevel) (host : Host) :
    let account := (l.locate verbosity host.toPlatform).conduct host
    let plain := (search host.toPlatform l.probes []).conduct host
    account.result = plain.result ∧
      account.calls = (if verbosity.admits .debug then toldVariables.map .env else []) ++ plain.calls := by
  unfold locate
  split
  · exact tellVariables_account _ toldVariables
  · exact ⟨rfl, rfl⟩

end Locator

theorem exhausted_message (attempts : List Attempt) :
    (ClangError.discoveryExhausted attempts).message = "could not find a suitable libclang directory" ++
      if attempts.isEmpty then "" else "; tried:" ++ String.join (attempts.map Attempt.line) :=
  rfl

/-- How a search comes out: the first probe that finds something decides, and without one every probe has
said in turn why it found nothing. -/
structure SearchDecided (probes : List Probe) (host : Host) (opening : List Query)
    (account : Account (Except ClangError Toolchain)) : Prop where
  found : (∃ probe ∈ probes, ∃ d, probe.outcome host = .ok (some d)) →
    ∃ before probe after d, probes = before ++ probe :: after ∧
      (∀ p ∈ before, ∀ d, p.outcome host ≠ .ok (some d)) ∧ probe.outcome host = .ok (some d) ∧
      (∃ toolchain, account.result = .ok toolchain ∧ toolchain.source = probe.source ∧
        toolchain.libraryDir = d.libraryDir ∧ toolchain.executable = d.executable ∧
        toolchain.version = d.version) ∧
      account.calls = opening ++ (before ++ [probe]).flatMap (Probe.calls host)
  exhausted : (∀ probe ∈ probes, ∀ d, probe.outcome host ≠ .ok (some d)) →
    ∃ e, account.result = .error e ∧
      e = .discoveryExhausted (probes.map fun probe => ⟨probe.source.label, probe.reason host⟩) ∧
      e.message = "could not find a suitable libclang directory" ++
        (if probes.isEmpty then "" else "; tried:" ++ String.join (probes.map fun probe =>
          s!"\n  {probe.source.label}: {probe.reason host}")) ∧
      account.calls = opening ++ probes.flatMap (Probe.calls host)

/-- A search takes its probes in order, passes over the absent and the broken ones alike, and stops at the
first that finds something. Only at debug level does it ask for anything else before. -/
theorem locate_takes_first_finding (l : Locator) (verbosity : LogLevel) (host : Host) :
    SearchDecided l.probes host (if verbosity.admits .debug then Locator.toldVariables.map .env else [])
      ((l.locate verbosity host.toPlatform).conduct host) := by
  obtain ⟨result, calls⟩ := l.locate_account verbosity host
  constructor
  · rintro ⟨any, member, d, finds⟩
    have some : l.probes.findSome? (Probe.found? host) ≠ none := by
      intro none
      have missed := List.findSome?_eq_none_iff.mp none any member
      exact Probe.found?_eq_none.mp missed d finds
    obtain ⟨d, first⟩ := Option.ne_none_iff_exists'.mp some
    obtain ⟨before, probe, after, split, wins, earlier⟩ := List.findSome?_eq_some_iff.mp first
    have missed := fun p member => Probe.found?_eq_none.mp (earlier p member)
    have wins := Probe.found?_eq_some.mp wins
    obtain ⟨last, asked⟩ := Locator.search_first missed wins
    rw [← split] at last asked
    exact ⟨before, probe, after, d, split, missed, wins, ⟨_, result.trans last, rfl, rfl, rfl, rfl⟩,
      calls.trans (congrArg _ asked)⟩
  · intro missed
    obtain ⟨last, asked⟩ := Locator.search_exhausted missed
    rw [List.nil_append] at last
    refine ⟨.discoveryExhausted (l.probes.map (Probe.attempt host)), result.trans last, rfl, ?_, ?_⟩
    · rw [exhausted_message, List.isEmpty_map, List.map_map]
      simp only [Function.comp_def, Attempt.line, Probe.attempt]
    · rw [calls, asked]

end ClangAccess
