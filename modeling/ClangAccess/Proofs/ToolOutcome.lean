import ClangAccess.Proofs.FilledLine

namespace ClangAccess

/-- A text with a filled character at each of its ends, or with nothing in it. -/
structure FilledEnds (s : String) : Prop where
  begins : ∀ c ∈ s.toList.head?, isBlank c = false
  ends : ∀ c ∈ s.toList.getLast?, isBlank c = false

/-- What is left of a text when the blanks at its two ends are gone. -/
structure Trimmed (text trimmed : String) : Prop extends FilledEnds trimmed where
  split : ∃ left right, text.toList = left ++ trimmed.toList ++ right ∧ (∀ c ∈ left, isBlank c = true) ∧
    ∀ c ∈ right, isBlank c = true

theorem trimmed_iff {text trimmed : String} : Trimmed text trimmed ↔ trimBlanks text = trimmed := by
  constructor
  · intro isTrimmed
    obtain ⟨left, right, whole, atLeft, atRight⟩ := isTrimmed.split
    have padded := @trimBlanks_padded trimmed.toList left right atLeft atRight
    rw [← whole, String.ofList_toList, String.ofList_toList] at padded
    rw [padded, trimBlanks_of_filled_ends isTrimmed.begins isTrimmed.ends]
  · rintro rfl
    obtain ⟨left, right, whole, atLeft, atRight, begins, ends⟩ := trimBlanks_split text
    exact ⟨⟨begins, ends⟩, left, right, whole, atLeft, atRight⟩

/-- Two texts as one, with a newline between them if there is something in both. -/
inductive Joined : String → String → String → Prop
  | neither : Joined "" "" ""
  | first {s} : s ≠ "" → Joined s "" s
  | second {s} : s ≠ "" → Joined "" s s
  | both {s t} : s ≠ "" → t ≠ "" → Joined s t (s ++ "\n" ++ t)

theorem Site.joined_pair (s t : String) : Joined s t (joined [s, t]) := by
  by_cases noFirst : s = ""
  · subst noFirst
    by_cases noSecond : t = ""
    · subst noSecond
      exact .neither
    · have kept : joined ["", t] = t := by simp [joined, noSecond]
      rw [kept]
      exact .second noSecond
  · by_cases noSecond : t = ""
    · subst noSecond
      have kept : joined [s, ""] = s := by simp [joined, noFirst]
      rw [kept]
      exact .first noFirst
    · have kept : joined [s, t] = s ++ "\n" ++ t := by simp [joined, noFirst, noSecond]
      rw [kept]
      exact .both noFirst noSecond

/-- Joining adds no blanks at the ends. -/
theorem Joined.filledEnds {s t whole : String} (joined : Joined s t whole) (first : FilledEnds s)
    (second : FilledEnds t) : FilledEnds whole := by
  cases joined with
  | neither => exact first
  | first _ => exact first
  | second _ => exact second
  | both someFirst someSecond =>
    have front : s.toList ≠ [] := mt String.toList_eq_nil_iff.mp someFirst
    have back : t.toList ≠ [] := mt String.toList_eq_nil_iff.mp someSecond
    constructor
    · rw [String.toList_append, String.toList_append, List.append_assoc, List.head?_append_of_ne_nil _ front]
      exact first.begins
    · rw [String.toList_append, List.getLast?_append_of_ne_nil _ back]
      exact second.ends

/-- A program comes to its end in good time, in one way or another, after it has written some bytes as output and some
as errors. -/
def Site.Finishes (s : Site) (timeout : Nat) (program : Path) (args : List String) (status : ExitStatus)
    (stdout stderr : Bytes) : Prop :=
  ∃ microseconds, microseconds < timeout ∧ s.launch program args = .ended microseconds status stdout stderr

/-- What is told of a program that failed: what it wrote as output, then what it wrote as errors, without blanks around
the one, the other or both. -/
structure FailureText (stdout stderr told : String) : Prop extends FilledEnds told where
  streams : ∃ said complained, Trimmed stdout said ∧ Trimmed stderr complained ∧ Joined said complained told

/-- The answer of a host that ran a program to its end. It is the output if the program ended well, and else a failure
with all that the program wrote. -/
structure Classified (program : Path) (args : List String) (status : ExitStatus) (stdout stderr : Bytes)
    (answer : Except ProbeError String) : Prop where
  accepted : (∃ text, answer = .ok text) ↔ status = .exited 0
  output : ∀ text, answer = .ok text ↔ status = .exited 0 ∧ Trimmed stdout.lossy text
  refused : status ≠ .exited 0 → ∃ told, FailureText stdout.lossy stderr.lossy told ∧
    answer = .error (.toolFailed (program.display ++ " " ++ " ".intercalate args) status.text told)

section

variable {s : Site} {timeout : Nat} {program : Path} {args : List String} {status : ExitStatus}
  {stdout stderr : Bytes}

theorem Site.Finishes.answer (finishes : s.Finishes timeout program args status stdout stderr) :
    (s.host timeout).answer (.run program args) =
      if status = .exited 0 then .ok (trimBlanks stdout.lossy)
      else .error (.toolFailed (commandLine program args) status.text
        (joined [trimBlanks stdout.lossy, trimBlanks stderr.lossy])) := by
  obtain ⟨microseconds, inTime, ended⟩ := finishes
  change outcome timeout program args (s.launch program args) = _
  rw [ended]
  exact if_neg (Nat.not_le.mpr inTime)

theorem failureText_joined (stdout stderr : String) :
    FailureText stdout stderr (Site.joined [trimBlanks stdout, trimBlanks stderr]) := by
  have said : Trimmed stdout (trimBlanks stdout) := trimmed_iff.mpr rfl
  have complained : Trimmed stderr (trimBlanks stderr) := trimmed_iff.mpr rfl
  have both := Site.joined_pair (trimBlanks stdout) (trimBlanks stderr)
  exact ⟨both.filledEnds said.toFilledEnds complained.toFilledEnds, _, _, said, complained, both⟩

theorem Site.Finishes.classified (finishes : s.Finishes timeout program args status stdout stderr) :
    Classified program args status stdout stderr ((s.host timeout).answer (.run program args)) := by
  rw [finishes.answer]
  by_cases well : status = .exited 0
  · rw [if_pos well]
    constructor
    case accepted => exact iff_of_true ⟨_, rfl⟩ well
    case output =>
      intro text
      rw [and_iff_right well, trimmed_iff, Except.ok.injEq]
    case refused => exact fun failed => absurd well failed
  · rw [if_neg well]
    constructor
    case accepted => exact iff_of_false nofun well
    case output => exact fun text => iff_of_false nofun fun both => well both.1
    case refused => exact fun _ => ⟨_, failureText_joined stdout.lossy stderr.lossy, rfl⟩

end

/-- A program that ended in good time is taken by its exit status alone: with status zero its output counts and its
errors do not, and with any other both are told. -/
theorem finished_tool_classified (s : Site) (timeout : Nat) (program : Path) (args : List String)
    (status : ExitStatus) (stdout stderr : Bytes)
    (finishes : s.Finishes timeout program args status stdout stderr) :
    Classified program args status stdout stderr ((s.host timeout).answer (.run program args)) ∧
    ∀ (other : Site) (otherTimeout : Nat) (otherErrors : Bytes), status = .exited 0 →
      other.Finishes otherTimeout program args status stdout otherErrors →
      (other.host otherTimeout).answer (.run program args) = (s.host timeout).answer (.run program args) := by
  refine ⟨finishes.classified, fun other otherTimeout otherErrors well otherFinishes => ?_⟩
  rw [finishes.answer, otherFinishes.answer, if_pos well, if_pos well]

/-- A machine on which every program does the same. -/
def uniformSite (status : ExitStatus) (stdout stderr : Bytes) : Site where
  env _ := none
  find _ := none
  launch _ _ := .ended 9 status stdout stderr
  canonical? _ := none

theorem uniformSite_finishes (status : ExitStatus) (stdout stderr : Bytes) :
    (uniformSite status stdout stderr).Finishes 10 (.ofText "/c") ["-v", "-x"] status stdout stderr :=
  ⟨9, by decide, rfl⟩

/-- A tool that dumps core in the middle of what it says, and a tool that ends well with and without a complaint. -/
theorem killed_and_complaining_tools_classified :
    let killed := uniformSite (.killed 11 true) (Bytes.ofText " a\n") (Bytes.ofText "\tb\n" ++ [0xFF])
    let complaining := uniformSite (.exited 0) (Bytes.ofText " a\n") (Bytes.ofText "b")
    let silent := uniformSite (.exited 0) (Bytes.ofText " a\n") []
    killed.Finishes 10 (.ofText "/c") ["-v", "-x"] (.killed 11 true) (Bytes.ofText " a\n")
        (Bytes.ofText "\tb\n" ++ [0xFF]) ∧
      complaining.Finishes 10 (.ofText "/c") ["-v", "-x"] (.exited 0) (Bytes.ofText " a\n") (Bytes.ofText "b") ∧
      silent.Finishes 10 (.ofText "/c") ["-v", "-x"] (.exited 0) (Bytes.ofText " a\n") [] ∧
      (killed.host 10).answer (.run (.ofText "/c") ["-v", "-x"]) =
        .error (.toolFailed "/c -v -x" "signal: 11 (SIGSEGV) (core dumped)" "a\nb\n\uFFFD") ∧
      FailureText (Bytes.ofText " a\n").lossy (Bytes.ofText "\tb\n" ++ [0xFF]).lossy "a\nb\n\uFFFD" ∧
      (silent.host 10).answer (.run (.ofText "/c") ["-v", "-x"]) = .ok "a" ∧
      (complaining.host 10).answer (.run (.ofText "/c") ["-v", "-x"]) = .ok "a" := by
  intro killed complaining silent
  have killedEnds := uniformSite_finishes (.killed 11 true) (Bytes.ofText " a\n") (Bytes.ofText "\tb\n" ++ [0xFF])
  have complainingEnds := uniformSite_finishes (.exited 0) (Bytes.ofText " a\n") (Bytes.ofText "b")
  have silentEnds := uniformSite_finishes (.exited 0) (Bytes.ofText " a\n") []
  have told : (killed.host 10).answer (.run (.ofText "/c") ["-v", "-x"]) =
      .error (.toolFailed "/c -v -x" "signal: 11 (SIGSEGV) (core dumped)" "a\nb\n\uFFFD") := by decide
  have answered : (silent.host 10).answer (.run (.ofText "/c") ["-v", "-x"]) = .ok "a" := by decide
  obtain ⟨classified, -⟩ := finished_tool_classified killed 10 _ _ _ _ _ killedEnds
  obtain ⟨text, failure, refused⟩ := classified.refused (by decide)
  obtain ⟨-, -, rfl⟩ := ProbeError.toolFailed.inj (Except.error.inj (refused.symm.trans told))
  obtain ⟨-, sameOutput⟩ := finished_tool_classified silent 10 _ _ _ _ _ silentEnds
  have same := sameOutput complaining 10 _ rfl complainingEnds
  exact ⟨killedEnds, complainingEnds, silentEnds, told, failure, answered, same.trans answered⟩

end ClangAccess
