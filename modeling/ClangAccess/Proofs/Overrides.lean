import ClangAccess.Proofs.LockStep
import ClangAccess.Proofs.LossyText
import ClangAccess.Proofs.ProbeRun

namespace ClangAccess

/-- A value that says nothing: a text of blanks, or one without any characters. -/
def BlankText (value : Bytes) : Prop :=
  ∃ text, value = Bytes.ofText text ∧ ∀ c ∈ text.toList, isBlank c = true

theorem Utf8.mapM_char?_eq_some {ps : List Piece} {chars : List Char} :
    ps.mapM Piece.char? = some chars ↔ ps = chars.map .char := by
  induction ps generalizing chars with
  | nil => cases chars <;> simp
  | cons p ps ih =>
    rw [List.mapM_cons, Option.bind_eq_bind, Option.bind_eq_some_iff]
    cases p with
    | broken bytes => cases chars <;> simp [Piece.char?]
    | char c =>
      simp only [Piece.char?, Option.some.injEq, exists_eq_left', Option.bind_eq_bind, Option.bind_eq_some_iff,
        Option.pure_def, ih]
      cases chars with
      | nil => simp
      | cons d chars => simp [and_comm]

/-- Bytes are read as a text if they are what encodes it, and only then. -/
theorem Bytes.text?_eq_some {bytes : Bytes} {text : String} : bytes.text? = some text ↔ bytes = ofText text := by
  rw [text?, Option.map_eq_some_iff]
  constructor
  · rintro ⟨chars, read, rfl⟩
    have whole := (Utf8.pieces_reading bytes).flatMap_bytes
    rw [Utf8.mapM_char?_eq_some.mp read, List.flatMap_map] at whole
    rw [ofText, String.toList_ofList]
    exact whole.symm
  · rintro rfl
    exact ⟨text.toList, Utf8.mapM_char?_eq_some.mpr (Utf8.pieces_flatMap text.toList), String.ofList_toList⟩

theorem Probe.isBlankValue_iff {value : Bytes} : isBlankValue value = true ↔ BlankText value := by
  unfold isBlankValue
  cases read : value.text? with
  | some text =>
    obtain rfl := Bytes.text?_eq_some.mp read
    constructor
    · exact fun blank => ⟨text, rfl, List.all_eq_true.mp blank⟩
    · rintro ⟨other, same, blank⟩
      have again := Bytes.text?_eq_some.mpr same
      obtain rfl := Option.some.inj (read.symm.trans again)
      exact List.all_eq_true.mpr blank
  | none =>
    refine iff_of_false (fun empty => ?_) fun ⟨text, same, _⟩ => ?_
    · rw [List.isEmpty_iff.mp empty] at read
      exact nomatch read
    · exact nomatch read.symm.trans (Bytes.text?_eq_some.mpr same)

/-- The same host with another value for a variable, or without one. -/
def Host.setting (host : Host) (name : String) (value : Option Bytes) : Host where
  toPlatform := host.toPlatform
  remarks := host.remarks
  answer
    | .env other => if other = name then value else host.answer (.env other)
    | .find tool => host.answer (.find tool)
    | .run program args => host.answer (.run program args)

/-- The value of a variable on a host, if it is there and says something. -/
def Host.filled? (host : Host) (name : String) : Option Bytes :=
  (host.answer (.env name)).filter fun value => !Probe.isBlankValue value

theorem Host.filled?_setting_none {host : Host} {name : String} {value : Bytes}
    (set : host.answer (.env name) = some value) (blank : BlankText value) (other : String) :
    (host.setting name none).filled? other = host.filled? other := by
  unfold filled? setting
  dsimp only
  split
  · rename_i same
    subst same
    rw [set, Option.filter_some, Probe.isBlankValue_iff.mpr blank]
    rfl
  · rfl

namespace Probe

variable {host other : Host} {probe : Probe}

/-- Only two probes ask for variables. -/
theorem env_not_mem_calls (host : Host) (name : String) (notPath : probe ≠ .libclangPath)
    (notRoot : probe ≠ .llvmLibDir) : .env name ∉ probe.calls host := by
  have run := probe.runs host
  generalize probe.calls host = asked at run
  generalize probe.outcome host = came at run
  cases run with
  | pathUnset | path => exact absurd rfl notPath
  | rootUnset | root => exact absurd rfl notRoot
  | _ => simp

theorem libclangPath_outcome (host : Host) :
    libclangPath.outcome host = .ok ((host.filled? "LIBCLANG_PATH").map fun v => .directory ⟨v⟩) :=
  rfl

theorem llvmLibDir_outcome (host : Host) : llvmLibDir.outcome host =
    .ok ((host.filled? "LLVM_LIB_DIR").map fun v => .directory (Path.join ⟨v⟩ (.ofText "bin"))) :=
  rfl

/-- To a probe a blank value is as good as none. -/
theorem same_without_blank {name : String} {value : Bytes} (set : host.answer (.env name) = some value)
    (blank : BlankText value) (probe : Probe) :
    probe.outcome (host.setting name none) = probe.outcome host ∧
      probe.calls (host.setting name none) = probe.calls host := by
  have filled := Host.filled?_setting_none set blank
  cases probe with
  | libclangPath => exact ⟨by rw [libclangPath_outcome, filled, ← libclangPath_outcome], rfl⟩
  | llvmLibDir => exact ⟨by rw [llvmLibDir_outcome, filled, ← llvmLibDir_outcome], rfl⟩
  | _ =>
    refine Inquiry.conduct_agree _ fun query member => ?_
    cases query with
    | env name => exact absurd member (env_not_mem_calls host name nofun nofun)
    | find tool => rfl
    | run program args => rfl

end Probe

namespace Locator

variable {host other : Host}

/-- A search knows a host by what its probes make of it. -/
theorem search_congr {probes : List Probe}
    (same : ∀ probe ∈ probes, probe.outcome other = probe.outcome host ∧ probe.calls other = probe.calls host)
    (tried : List Attempt) :
    ((search other.toPlatform probes tried).conduct other).result =
        ((search host.toPlatform probes tried).conduct host).result ∧
      ((search other.toPlatform probes tried).conduct other).calls =
        ((search host.toPlatform probes tried).conduct host).calls := by
  induction probes generalizing tried with
  | nil => exact ⟨rfl, rfl⟩
  | cons first rest ih =>
    obtain ⟨⟨sameOutcome, sameCalls⟩, later⟩ := List.forall_mem_cons.mp same
    by_cases misses : first.Misses host
    · have otherMisses : first.Misses other := fun found finds => misses found (sameOutcome.symm.trans finds)
      have sameAttempt : first.attempt other = first.attempt host := by
        rw [Probe.attempt, Probe.reason, sameOutcome, Probe.attempt, Probe.reason]
      obtain ⟨result, calls⟩ := @search_missed host first tried rest misses
      obtain ⟨otherResult, otherCalls⟩ := @search_missed other first tried rest otherMisses
      obtain ⟨restResult, restCalls⟩ := ih later (tried ++ [first.attempt host])
      rw [sameAttempt] at otherResult otherCalls
      rw [result, calls, otherResult, otherCalls, restResult, restCalls, sameCalls]
      exact ⟨rfl, rfl⟩
    · obtain ⟨found, finds⟩ := not_forall_not.mp misses
      obtain ⟨result, calls⟩ := @search_found host first rest tried found finds
      obtain ⟨otherResult, otherCalls⟩ := @search_found other first rest tried found (sameOutcome.trans finds)
      rw [result, calls, otherResult, otherCalls, sameCalls]
      exact ⟨rfl, rfl⟩

variable {before rest : List Probe} {probe : Probe} {found : Discovery}

/-- A search whose first finding is known, at every verbosity. -/
theorem locate_first (missed : ∀ p ∈ before, p.Misses host) (finds : probe.outcome host = .ok (some found))
    (verbosity : LogLevel) :
    let account := ((⟨before ++ probe :: rest⟩ : Locator).locate verbosity host.toPlatform).conduct host
    account.result = .ok (.ofDiscovery probe.source found) ∧
      account.calls = (if verbosity.admits .debug then toldVariables.map .env else []) ++
        (before ++ [probe]).flatMap (Probe.calls host) := by
  obtain ⟨result, calls⟩ := (⟨before ++ probe :: rest⟩ : Locator).locate_account verbosity host
  obtain ⟨first, asked⟩ := @search_first host probe before rest [] found missed finds
  exact ⟨result.trans first, calls.trans (congrArg _ asked)⟩

end Locator

theorem Host.filled?_eq_some {host : Host} {name : String} {value : Bytes}
    (set : host.answer (.env name) = some value) (filled : ¬BlankText value) :
    host.filled? name = some value := by
  rw [filled?, set, Option.filter_some, Bool.eq_false_iff.mpr (mt Probe.isBlankValue_iff.mp filled)]
  rfl

theorem Host.filled?_eq_none {host : Host} {name : String}
    (unset : ∀ value : Bytes, host.answer (.env name) = some value → BlankText value) :
    host.filled? name = none := by
  rw [filled?, Option.filter_eq_none_iff]
  intro value set
  rw [Probe.isBlankValue_iff.mpr (unset value set)]
  exact Bool.false_ne_true

theorem Path.bytes_join_bin {value : Bytes} (some : value ≠ []) :
    (Path.join ⟨value⟩ (.ofText "bin")).bytes =
      value ++ (if value.getLast? = .some slash then [] else [slash]) ++ Bytes.ofText "bin" := by
  have relative : (ofText "bin").isAbsolute = false := by decide
  have named : Path.isEmpty ⟨value⟩ = false := by simpa [isEmpty] using some
  rw [join, if_neg (by simp [relative]), named, Bool.false_or]
  by_cases ended : value.getLast? = .some slash
  · rw [if_pos (decide_eq_true ended), if_pos ended, List.append_nil]
    rfl
  · rw [if_neg (by simpa using ended), if_neg ended, List.append_assoc]
    rfl

/-- What the two variables that override a search do to it: a blank one is as good as none, and one that is not blank
is the answer, byte for byte, before any tool is asked. -/
structure OverridesHeeded (host : Host) (search : Host → LogLevel → Account (Except ClangError Toolchain)) :
    Prop where
  blank : ∀ name ∈ ["LIBCLANG_PATH", "LLVM_LIB_DIR"], ∀ value : Bytes, host.answer (.env name) = some value →
    BlankText value → ∀ verbosity,
      (search (host.setting name none) verbosity).result = (search host verbosity).result ∧
        (search (host.setting name none) verbosity).calls = (search host verbosity).calls
  path : ∀ value : Bytes, host.answer (.env "LIBCLANG_PATH") = some value → ¬BlankText value → ∀ verbosity,
    ∃ t, (search host verbosity).result = .ok t ∧ t.source = .libclangPath ∧ t.libraryDir = ⟨value⟩ ∧
      t.executable = none ∧ t.version = none ∧
      (search host verbosity).calls =
        (if verbosity.admits .debug then Locator.toldVariables.map .env else []) ++ [.env "LIBCLANG_PATH"]
  root : (∀ value : Bytes, host.answer (.env "LIBCLANG_PATH") = some value → BlankText value) →
    ∀ value : Bytes, host.answer (.env "LLVM_LIB_DIR") = some value → ¬BlankText value → ∀ verbosity,
      ∃ t, (search host verbosity).result = .ok t ∧ t.source = .llvmLibDir ∧
        t.libraryDir = Path.join ⟨value⟩ (.ofText "bin") ∧
        t.libraryDir.bytes =
          value ++ (if value.getLast? = some Path.slash then [] else [Path.slash]) ++ Bytes.ofText "bin" ∧
        t.executable = none ∧ t.version = none ∧
        (search host verbosity).calls =
          (if verbosity.admits .debug then Locator.toldVariables.map .env else []) ++
            [.env "LIBCLANG_PATH", .env "LLVM_LIB_DIR"]

/-- A search goes by the variables that say something and by no others, whatever the host. -/
theorem overrides_heeded (host : Host) :
    OverridesHeeded host fun host verbosity => (({} : Locator).locate verbosity host.toPlatform).conduct host := by
  constructor
  case blank =>
    intro name _ value set blank verbosity
    obtain ⟨result, calls⟩ := Locator.locate_account {} verbosity host
    obtain ⟨otherResult, otherCalls⟩ := Locator.locate_account {} verbosity (host.setting name none)
    have same := fun probe (_ : probe ∈ Probe.defaults) => Probe.same_without_blank set blank probe
    obtain ⟨sameResult, sameCalls⟩ := Locator.search_congr same []
    exact ⟨otherResult.trans (sameResult.trans result.symm),
      otherCalls.trans ((congrArg _ sameCalls).trans calls.symm)⟩
  case path =>
    intro value set filled verbosity
    have finds : Probe.libclangPath.outcome host = .ok (some (.directory ⟨value⟩)) := by
      rw [Probe.libclangPath_outcome, Host.filled?_eq_some set filled]
      rfl
    obtain ⟨result, calls⟩ := @Locator.locate_first host [] _ .libclangPath _ nofun finds verbosity
    exact ⟨_, result, rfl, rfl, rfl, rfl, calls⟩
  case root =>
    intro unset value set filled verbosity
    have misses : Probe.libclangPath.Misses host := by
      intro found finds
      rw [Probe.libclangPath_outcome, Host.filled?_eq_none unset] at finds
      exact nomatch finds
    have finds : Probe.llvmLibDir.outcome host = .ok (some (.directory (Path.join ⟨value⟩ (.ofText "bin")))) := by
      rw [Probe.llvmLibDir_outcome, Host.filled?_eq_some set filled]
      rfl
    have some : value ≠ [] := by
      rintro rfl
      exact filled ⟨"", rfl, nofun⟩
    obtain ⟨result, calls⟩ := @Locator.locate_first host [.libclangPath] _ .llvmLibDir _
      (List.forall_mem_singleton.mpr misses) finds verbosity
    exact ⟨_, result, rfl, rfl, Path.bytes_join_bin some, rfl, rfl, calls⟩

end ClangAccess
