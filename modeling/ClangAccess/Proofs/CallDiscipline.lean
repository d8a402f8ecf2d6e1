import ClangAccess.Proofs.ProbeRun
import Mathlib.Logic.Basic

namespace ClangAccess

/-- What warrants the run of a tool: directly before it the tool was found, or the same tool, found as
`llvm-config`, gave a version. -/
inductive RunWarranted (host : Host) : List Query → Path → List String → Prop
  | configVersion {earlier exe} : host.answer (.find "llvm-config") = some exe →
      RunWarranted host (earlier ++ [.find "llvm-config"]) exe ["--version"]
  | driverVersion {earlier exe} : host.windows = false → host.answer (.find "clang++") = some exe →
      RunWarranted host (earlier ++ [.find "clang++"]) exe ["--version"]
  | libdir {earlier exe said version} : host.windows = false → host.answer (.find "llvm-config") = some exe →
      host.answer (.run exe ["--version"]) = .ok said → plainVersion? said = some version →
      RunWarranted host (earlier ++ [.find "llvm-config", .run exe ["--version"]]) exe ["--libdir"]
  | bindir {earlier exe said version} : host.windows = true → host.answer (.find "llvm-config") = some exe →
      host.answer (.run exe ["--version"]) = .ok said → plainVersion? said = some version →
      RunWarranted host (earlier ++ [.find "llvm-config", .run exe ["--version"]]) exe ["--bindir"]

/-- A question whose answer ends the trust in a tool: it is not there, it failed, or it gave no version. What
counts as a version depends on the tool that was found just before. -/
inductive Distrusted (host : Host) : List Query → Query → Prop
  | notFound {earlier tool} : host.answer (.find tool) = none → Distrusted host earlier (.find tool)
  | failed {earlier exe args e} : host.answer (.run exe args) = .error e → Distrusted host earlier (.run exe args)
  | configUnversioned {earlier exe said} : host.answer (.run exe ["--version"]) = .ok said →
      plainVersion? said = none → Distrusted host (earlier ++ [.find "llvm-config"]) (.run exe ["--version"])
  | driverUnversioned {earlier exe said} : host.answer (.run exe ["--version"]) = .ok said →
      driverVersion? said = none → Distrusted host (earlier ++ [.find "clang++"]) (.run exe ["--version"])

/-- The questions of one probe by the tools that it runs: none, one for its version, or `llvm-config` for its
version and then for its directory. -/
inductive Conversation (host : Host) : List Query → Prop
  | silent {asked} : (∀ exe args, .run exe args ∉ asked) → Conversation host asked
  | version {tool exe} : tool = "llvm-config" ∨ tool = "clang++" ∧ host.windows = false →
      host.answer (.find tool) = some exe → Conversation host [.find tool, .run exe ["--version"]]
  | directory {exe said version} : host.answer (.find "llvm-config") = some exe →
      host.answer (.run exe ["--version"]) = .ok said → plainVersion? said = some version →
      Conversation host
        [.find "llvm-config", .run exe ["--version"], .run exe [Probe.directoryFlag host.windows]]

theorem ProbeRun.conversation {host : Host} {probe : Probe} {outcome : ProbeOutcome} {asked : List Query}
    (run : ProbeRun host probe outcome asked) : Conversation host asked := by
  cases run with
  | toolFailed found | toolUnversioned found => exact .version (Or.inl rfl) found
  | toolMute found said parsed | toolBlank found said parsed | tool found said parsed =>
    exact .directory found said parsed
  | driverFailed elsewhere found | driverUnversioned elsewhere found | driverMisplaced elsewhere found
    | driver elsewhere found => exact .version (Or.inr ⟨rfl, elsewhere⟩) found
  | _ => exact .silent (by simp)

theorem RunWarranted.after {host : Host} {earlier : List Query} {exe : Path} {args : List String}
    (warranted : RunWarranted host earlier exe args) (first : List Query) :
    RunWarranted host (first ++ earlier) exe args := by
  cases warranted with
  | configVersion found =>
    rw [← List.append_assoc]
    exact .configVersion found
  | driverVersion elsewhere found =>
    rw [← List.append_assoc]
    exact .driverVersion elsewhere found
  | libdir elsewhere found said parsed =>
    rw [← List.append_assoc]
    exact .libdir elsewhere found said parsed
  | bindir windows found said parsed =>
    rw [← List.append_assoc]
    exact .bindir windows found said parsed

namespace Conversation

variable {host : Host} {asked before after : List Query} {exe : Path} {args : List String} {query : Query}

theorem split_pair {a b : Query} (split : [a, b] = before ++ query :: after) :
    (before = [] ∧ query = a ∧ after = [b]) ∨ (before = [a] ∧ query = b ∧ after = []) := by
  match before, split with
  | [], split => exact Or.inl (by simpa [eq_comm] using split)
  | [_], split => exact Or.inr (by simpa [eq_comm] using split)
  | _ :: _ :: _, split => simp at split

theorem split_triple {a b c : Query} (split : [a, b, c] = before ++ query :: after) :
    (before = [] ∧ query = a ∧ after = [b, c]) ∨ (before = [a] ∧ query = b ∧ after = [c]) ∨
      (before = [a, b] ∧ query = c ∧ after = []) := by
  match before, split with
  | [], split => exact Or.inl (by simpa [eq_comm] using split)
  | first :: before, split =>
    obtain ⟨rfl, rest⟩ := List.cons.inj split
    simpa using split_pair rest

theorem directory_warranted {said version : String} (found : host.answer (.find "llvm-config") = some exe)
    (ran : host.answer (.run exe ["--version"]) = .ok said) (parsed : plainVersion? said = some version) :
    RunWarranted host [.find "llvm-config", .run exe ["--version"]] exe [Probe.directoryFlag host.windows] := by
  cases windows : host.windows with
  | false => exact @RunWarranted.libdir _ [] _ _ _ windows found ran parsed
  | true => exact @RunWarranted.bindir _ [] _ _ _ windows found ran parsed

theorem warranted (conversation : Conversation host asked) (split : asked = before ++ .run exe args :: after) :
    RunWarranted host before exe args := by
  cases conversation with
  | silent quiet => exact absurd (by simp [split]) (quiet exe args)
  | version tool found =>
    obtain ⟨_, other, _⟩ | ⟨rfl, same, _⟩ := split_pair split
    · exact nomatch other
    · cases same
      rcases tool with rfl | ⟨rfl, elsewhere⟩
      · exact @RunWarranted.configVersion _ [] _ found
      · exact @RunWarranted.driverVersion _ [] _ elsewhere found
  | directory found said parsed =>
    obtain ⟨_, other, _⟩ | ⟨rfl, same, _⟩ | ⟨rfl, same, _⟩ := split_triple split
    · exact nomatch other
    · cases same
      exact @RunWarranted.configVersion _ [] _ found
    · cases same
      exact directory_warranted found said parsed

/-- A tool that is found, runs and gives a version of its own kind is no cause for distrust. -/
theorem not_distrusted {said version : String} (here : before = [.find "llvm-config"])
    (ran : host.answer (.run exe ["--version"]) = .ok said) (parsed : plainVersion? said = some version) :
    ¬Distrusted host before (.run exe ["--version"]) := by
  intro distrusted
  cases distrusted with
  | failed failed => exact nomatch ran.symm.trans failed
  | configUnversioned other unversioned =>
    rw [Except.ok.inj (other.symm.trans ran), parsed] at unversioned
    exact nomatch unversioned
  | driverUnversioned =>
    have last := congrArg List.getLast? here
    simp at last

theorem found_not_distrusted {tool : String} (found : host.answer (.find tool) = some exe) :
    ¬Distrusted host before (.find tool) := by
  intro distrusted
  cases distrusted with
  | notFound absent => exact nomatch found.symm.trans absent

theorem distrusted_last (conversation : Conversation host asked) (split : asked = before ++ query :: after)
    (distrusted : Distrusted host before query) : .run exe args ∉ after := by
  cases conversation with
  | silent quiet =>
    intro later
    exact quiet exe args (by simp [split, later])
  | version tool found =>
    obtain ⟨_, rfl, _⟩ | ⟨_, _, rfl⟩ := split_pair split
    · exact absurd distrusted (found_not_distrusted found)
    · exact List.not_mem_nil
  | directory found said parsed =>
    obtain ⟨_, rfl, _⟩ | ⟨here, rfl, _⟩ | ⟨_, _, rfl⟩ := split_triple split
    · exact absurd distrusted (found_not_distrusted found)
    · exact absurd distrusted (not_distrusted here said parsed)
    · exact List.not_mem_nil

end Conversation

/-- A search puts the questions of its first probes, one probe after the other. -/
theorem Locator.search_calls (host : Host) (probes : List Probe) (tried : List Attempt) :
    ∃ asked, asked <+: probes ∧
      ((search host.toPlatform probes tried).conduct host).calls = asked.flatMap (Probe.calls host) := by
  induction probes generalizing tried with
  | nil => exact ⟨[], List.nil_prefix, rfl⟩
  | cons first rest ih =>
    by_cases misses : first.Misses host
    · obtain ⟨asked, leading, calls⟩ := ih (tried ++ [first.attempt host])
      refine ⟨first :: asked, List.cons_prefix_cons.mpr ⟨rfl, leading⟩, ?_⟩
      rw [(search_missed rest misses).2, calls, List.flatMap_cons]
    · obtain ⟨found, finds⟩ := not_forall_not.mp misses
      refine ⟨[first], List.cons_prefix_cons.mpr ⟨rfl, List.nil_prefix⟩, ?_⟩
      rw [(search_found finds).2, List.flatMap_singleton]

/-- What is warranted within the questions of one probe is so among those of all. -/
theorem Probe.flatMap_warranted {host : Host} {probes : List Probe} {before after : List Query} {exe : Path}
    {args : List String} (split : probes.flatMap (Probe.calls host) = before ++ .run exe args :: after) :
    RunWarranted host before exe args := by
  induction probes generalizing before with
  | nil => simp at split
  | cons first rest ih =>
    rw [List.flatMap_cons] at split
    obtain ⟨head, rfl, later⟩ | ⟨tail, within, later⟩ := List.append_eq_append_iff.mp split
    · exact (ih later).after (first.calls host)
    · cases tail with
      | nil =>
        rw [List.append_nil] at within
        have warranted := (@ih [] later.symm).after (first.calls host)
        rwa [List.append_nil, within] at warranted
      | cons query tail =>
        obtain ⟨rfl, _⟩ := List.cons.inj later
        exact (first.runs host).conversation.warranted within

/-- The calls of a search that runs no tool without cause. -/
structure CallDiscipline (host : Host) (probes : List Probe) (calls : List Query) : Prop where
  /-- The calls are those of some probes from the first on, one probe after the other. -/
  invocations : ∃ asked, asked <+: probes ∧ calls = asked.flatMap (Probe.calls host)
  warranted : ∀ before exe args after, calls = before ++ .run exe args :: after → RunWarranted host before exe args
  /-- What warrants a run is a matter of the probe that runs the tool. -/
  warrantedWithin : ∀ probe ∈ probes, ∀ before exe args after,
    probe.calls host = before ++ .run exe args :: after → RunWarranted host before exe args
  distrusted : ∀ probe ∈ probes, ∀ before query after, probe.calls host = before ++ query :: after →
    Distrusted host before query → ∀ exe args, .run exe args ∉ after

/-- A tool is run only if it was just found or has just given its version, and a probe that has cause for
distrust runs nothing more. -/
theorem tools_run_on_trust_only (probes : List Probe) (host : Host) :
    CallDiscipline host probes (((⟨probes⟩ : Locator).locate .off host.toPlatform).conduct host).calls := by
  obtain ⟨asked, leading, calls⟩ := Locator.search_calls host probes []
  have plain : (((⟨probes⟩ : Locator).locate .off host.toPlatform).conduct host).calls =
      asked.flatMap (Probe.calls host) := calls
  rw [plain]
  constructor
  case invocations => exact ⟨asked, leading, rfl⟩
  case warranted => exact fun before exe args after split => Probe.flatMap_warranted split
  case warrantedWithin =>
    exact fun probe _ before exe args after split => (probe.runs host).conversation.warranted split
  case distrusted =>
    exact fun probe _ before query after split distrusted exe args =>
      (probe.runs host).conversation.distrusted_last split distrusted

end ClangAccess
