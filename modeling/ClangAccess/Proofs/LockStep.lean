import ClangAccess.Proofs.SearchOrder

namespace ClangAccess

namespace Inquiry

variable {α : Type}

/-- Two hosts lead an inquiry the same way until they answer a question differently, and every question before
that one is put to both. -/
theorem conduct_parts (host other : Host) (inquiry : Inquiry α) :
    let mine := inquiry.conduct host
    let theirs := inquiry.conduct other
    (theirs.result = mine.result ∧ theirs.calls = mine.calls) ∨
      ∃ before query after otherAfter, mine.calls = before ++ query :: after ∧
        theirs.calls = before ++ query :: otherAfter ∧
        (∀ q ∈ before, other.answer q = host.answer q) ∧ other.answer query ≠ host.answer query := by
  induction inquiry with
  | done => exact Or.inl ⟨rfl, rfl⟩
  | note record rest ih => exact ih
  | ask query next ih =>
    by_cases agree : other.answer query = host.answer query
    · -- Both go on with the same answer, so the rest is one inquiry on two hosts.
      simp only [conduct, agree]
      obtain ⟨result, calls⟩ | parted := ih (host.answer query)
      · exact Or.inl ⟨result, congrArg _ calls⟩
      · obtain ⟨before, parting, after, later, mine, theirs, same, differ⟩ := parted
        refine Or.inr ⟨query :: before, parting, after, later, congrArg _ mine, congrArg _ theirs, ?_, differ⟩
        exact List.forall_mem_cons.mpr ⟨agree, same⟩
    · exact Or.inr ⟨[], query, _, _, rfl, rfl, List.forall_mem_nil _, agree⟩

/-- What a host would have said to a question that was not asked is of no account. -/
theorem conduct_agree {host other : Host} (inquiry : Inquiry α)
    (agree : ∀ query ∈ (inquiry.conduct host).calls, other.answer query = host.answer query) :
    (inquiry.conduct other).result = (inquiry.conduct host).result ∧
      (inquiry.conduct other).calls = (inquiry.conduct host).calls := by
  rcases inquiry.conduct_parts host other with same | ⟨before, query, after, _, mine, _, _, differ⟩
  · exact same
  · exact absurd (agree query (mine ▸ List.mem_append_right before (List.mem_cons_self ..))) differ

end Inquiry

/-- A search does not depend on any answer that it did not ask for. -/
theorem locate_ignores_unasked (l : Locator) (verbosity : LogLevel) (host other : Host)
    (platform : other.toPlatform = host.toPlatform)
    (agree : ∀ query ∈ ((l.locate verbosity host.toPlatform).conduct host).calls,
      other.answer query = host.answer query) :
    ((l.locate verbosity other.toPlatform).conduct other).result =
        ((l.locate verbosity host.toPlatform).conduct host).result ∧
      ((l.locate verbosity other.toPlatform).conduct other).calls =
        ((l.locate verbosity host.toPlatform).conduct host).calls := by
  rw [platform]
  exact (l.locate verbosity host.toPlatform).conduct_agree agree

def bareHost : Host where
  windows := false
  canonical? _ := none
  answer
    | .env name => if name = "LLVM_LIB_DIR" then some (Bytes.ofText "/opt/llvm") else none
    | .find _ => none
    | .run program _ => .error (.spawn program "no such file")

/-- The same host with every tool there is, and talkative. -/
def crowdedHost : Host where
  windows := false
  canonical? _ := none
  answer
    | .env name => bareHost.answer (.env name)
    | .find name => some (.ofText ("/usr/bin/" ++ name))
    | .run _ _ => .ok "17.0.6"
  remarks _ := [.debug "asked"]

theorem crowded_search_as_bare :
    crowdedHost.toPlatform = bareHost.toPlatform ∧
    (∀ query ∈ (((⟨Probe.defaults⟩ : Locator).locate .off bareHost.toPlatform).conduct bareHost).calls,
      crowdedHost.answer query = bareHost.answer query) ∧
    (((⟨Probe.defaults⟩ : Locator).locate .off crowdedHost.toPlatform).conduct crowdedHost).result =
        (((⟨Probe.defaults⟩ : Locator).locate .off bareHost.toPlatform).conduct bareHost).result ∧
      (((⟨Probe.defaults⟩ : Locator).locate .off crowdedHost.toPlatform).conduct crowdedHost).calls =
        (((⟨Probe.defaults⟩ : Locator).locate .off bareHost.toPlatform).conduct bareHost).calls := by
  have asked : (((⟨Probe.defaults⟩ : Locator).locate .off bareHost.toPlatform).conduct bareHost).calls =
      [.env "LIBCLANG_PATH", .env "LLVM_LIB_DIR"] := rfl
  have agree : ∀ query ∈ (((⟨Probe.defaults⟩ : Locator).locate .off bareHost.toPlatform).conduct bareHost).calls,
      crowdedHost.answer query = bareHost.answer query := by
    rw [asked]
    exact List.forall_mem_cons.mpr ⟨rfl, List.forall_mem_singleton.mpr rfl⟩
  exact ⟨rfl, agree, locate_ignores_unasked ⟨Probe.defaults⟩ .off bareHost crowdedHost rfl agree⟩

end ClangAccess
