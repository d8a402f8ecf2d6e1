import ClangAccess.Probe

namespace ClangAccess

/-- The probes of a search, by priority. -/
structure Locator where
  probes : List Probe := Probe.defaults
  deriving DecidableEq, Repr

namespace Locator

/-- A directory from the caller comes before every other source. -/
def withExplicitDir (l : Locator) : Option Path → Locator
  | none => l
  | some dir => ⟨.explicit dir :: l.probes⟩

/-- Try the probes in turn until one finds something; `tried` are those that gave nothing so far. -/
def search (platform : Platform) : List Probe → List Attempt → Inquiry (Except ClangError Toolchain)
  | [], tried => .done (.error (.discoveryExhausted tried))
  | probe :: rest, tried =>
    let label := probe.source.label
    .debug s!"looking for libclang: trying {label}" <|
    (probe.inquire platform).bind fun
      | .ok (some found) =>
        .debug s!"looking for libclang: {label} gave {found.libraryDir.display}" <|
        .done (.ok (.ofDiscovery probe.source found))
      | .ok none =>
        .debug s!"looking for libclang: {label}: {probe.unavailable}" <|
        search platform rest (tried ++ [⟨label, probe.unavailable⟩])
      | .error e =>
        .warn s!"looking for libclang: {label} failed, trying the next source: {e.message}" <|
        search platform rest (tried ++ [⟨label, e.message⟩])

/-- The variables that a search tells of when it tells all. -/
def toldVariables : List String :=
  ["PATH", "LD_LIBRARY_PATH", "LIBCLANG_PATH", "LLVM_LIB_DIR"]

/-- Note what some variables hold; one that is unset shows as empty. -/
def tellVariables (rest : Inquiry α) : List String → Inquiry α
  | [] => rest
  | name :: names => .env name fun value =>
    .debug s!"{name}={(value.getD []).lossy}" (tellVariables rest names)

/-- Search for libclang. At debug level the log opens with the environment. -/
def locate (l : Locator) (verbosity : LogLevel) (platform : Platform) : Inquiry (Except ClangError Toolchain) :=
  if verbosity.admits .debug then tellVariables (search platform l.probes []) toldVariables
  else search platform l.probes []

end Locator

end ClangAccess
