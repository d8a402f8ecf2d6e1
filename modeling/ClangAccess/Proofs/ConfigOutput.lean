import ClangAccess.Proofs.FilledLine
import ClangAccess.Proofs.LossyText

namespace ClangAccess

/-- A program that ends well in good time, after it has printed some bytes. -/
def Site.Prints (s : Site) (timeout : Nat) (program : Path) (args : List String) (stdout : Bytes) : Prop :=
  ∃ microseconds stderr, microseconds < timeout ∧
    s.launch program args = .ended microseconds .success stdout stderr

/-- Of what such a program prints the text comes through, trimmed, and of its error output nothing. -/
theorem Site.Prints.answer {s : Site} {timeout : Nat} {program : Path} {args : List String} {stdout : Bytes}
    (prints : s.Prints timeout program args stdout) :
    (s.host timeout).answer (.run program args) = .ok (trimBlanks stdout.lossy) := by
  obtain ⟨microseconds, stderr, inTime, ended⟩ := prints
  simp only [host, ended, outcome, if_neg (Nat.not_le.mpr inTime), if_true]

/-- What the probe of `llvm-config` makes of the two outputs of the tool. -/
def Probe.configOutcome (exe : Path) (flag said listed : String) : ProbeOutcome :=
  match plainVersion? said with
  | none => .error (.unparseableVersion exe said)
  | some version =>
    if (reportedDirectory listed).isEmpty then
      .error (.toolFailed (commandLine exe [flag]) "exit status: 0" "<empty>")
    else .ok (some ⟨.ofText (reportedDirectory listed), some exe, some version⟩)

theorem Probe.llvmConfig_outcome {host : Host} {exe : Path} {said listed : String}
    (found : host.answer (.find "llvm-config") = some exe)
    (ran : host.answer (.run exe ["--version"]) = .ok said)
    (reran : host.answer (.run exe [directoryFlag host.windows]) = .ok listed) :
    llvmConfig.outcome host = configOutcome exe (directoryFlag host.windows) said listed := by
  simp only [outcome, inquire, inquireLlvmConfig, Inquiry.find, Inquiry.debug, Inquiry.run, Inquiry.conduct, found,
    ran, configOutcome]
  cases plainVersion? said with
  | none => rfl
  | some version =>
    simp only [Inquiry.conduct, reran]
    cases blank : (reportedDirectory listed).isEmpty with
    | true => rfl
    | false => rfl

/-- What comes of an `llvm-config` by the first filled lines of its two outputs: the one for its version and the one
for its library directory. Of a version that is not accepted the whole output is quoted. -/
structure ConfigReading (exe : Path) (said listed : String) (outcome : ProbeOutcome) : Prop where
  accepted : (¬∃ quoted, outcome = .error (.unparseableVersion exe quoted)) ↔
    ∃ line number rest, FirstFilledLine said.toList line ∧ line.dropWhile isBlank = number ++ rest ∧
      VersionNumber number
  rejected : ∀ quoted, outcome = .error (.unparseableVersion exe quoted) ↔
    (¬∃ number, LeadingVersion said.toList number) ∧ quoted = trimBlanks said
  found : ∀ d, outcome = .ok (some d) ↔ ∃ number directory, LeadingVersion said.toList number ∧
    TrimmedFilledLine listed.toList directory ∧ d = ⟨.ofText directory, some exe, some (String.ofList number)⟩
  empty : outcome = .error (.toolFailed (commandLine exe ["--libdir"]) "exit status: 0" "<empty>") ↔
    (∃ number, LeadingVersion said.toList number) ∧ ¬∃ line, FirstFilledLine listed.toList line

namespace ConfigReading

variable {exe : Path} {said listed directory : String} {number : List Char}

theorem unversioned (unversioned : ¬∃ number, LeadingVersion said.toList number) :
    ConfigReading exe said listed (.error (.unparseableVersion exe (trimBlanks said))) where
  accepted := by
    rw [← exists_leadingVersion_iff]
    exact iff_of_false (not_not_intro ⟨_, rfl⟩) unversioned
  rejected quoted := by
    rw [and_iff_right unversioned]
    constructor
    · rintro ⟨⟩
      rfl
    · rintro rfl
      rfl
  found d := iff_of_false nofun fun ⟨number, _, leading, _⟩ => unversioned ⟨number, leading⟩
  empty := iff_of_false nofun fun both => unversioned both.1

theorem blank (leading : LeadingVersion said.toList number) (none : ¬∃ line, FirstFilledLine listed.toList line) :
    ConfigReading exe said listed
      (.error (.toolFailed (commandLine exe ["--libdir"]) "exit status: 0" "<empty>")) where
  accepted := by
    rw [← exists_leadingVersion_iff]
    exact iff_of_true nofun ⟨number, leading⟩
  rejected quoted := iff_of_false nofun fun both => both.1 ⟨number, leading⟩
  found d := iff_of_false nofun fun ⟨_, _, _, ⟨line, firstFilled, _⟩, _⟩ => none ⟨line, firstFilled⟩
  empty := iff_of_true rfl ⟨⟨number, leading⟩, none⟩

theorem listedDirectory (leading : LeadingVersion said.toList number)
    (filled : TrimmedFilledLine listed.toList directory)
    (uniqueNumber : ∀ other, LeadingVersion said.toList other → other = number)
    (uniqueDirectory : ∀ other, TrimmedFilledLine listed.toList other → other = directory) :
    ConfigReading exe said listed
      (.ok (some ⟨.ofText directory, some exe, some (String.ofList number)⟩)) where
  accepted := by
    rw [← exists_leadingVersion_iff]
    exact iff_of_true nofun ⟨number, leading⟩
  rejected quoted := iff_of_false nofun fun both => both.1 ⟨number, leading⟩
  found d := by
    constructor
    · intro same
      exact ⟨number, directory, leading, filled, (Option.some.inj (Except.ok.inj same)).symm⟩
    · rintro ⟨other, elsewhere, otherLeading, otherFilled, rfl⟩
      rw [uniqueNumber other otherLeading, uniqueDirectory elsewhere otherFilled]
  empty := by
    obtain ⟨line, firstFilled, _⟩ := filled
    exact iff_of_false nofun fun both => both.2 ⟨line, firstFilled⟩

end ConfigReading

theorem Probe.configOutcome_reading (exe : Path) (said listed : String) :
    ConfigReading exe said listed (configOutcome exe "--libdir" (trimBlanks said) (trimBlanks listed)) := by
  have parsed : ∀ number, LeadingVersion said.toList number ↔
      plainVersion? (trimBlanks said) = some (String.ofList number) := by
    intro number
    rw [plainVersion?_trimBlanks, String.toList_ofList]
  unfold configOutcome
  cases read : plainVersion? (trimBlanks said) with
  | none =>
    rw [read] at parsed
    exact .unversioned fun ⟨number, leading⟩ => nomatch (parsed number).mp leading
  | some version =>
    rw [read] at parsed
    have leading := (parsed version.toList).mpr (by rw [String.ofList_toList])
    dsimp only
    split
    · rename_i empty
      exact .blank leading (reportedDirectory_isEmpty.mp empty)
    · rename_i filled
      obtain ⟨line, firstFilled⟩ := not_not.mp (mt reportedDirectory_isEmpty.mpr filled)
      have directory := @ConfigReading.listedDirectory exe said listed _ version.toList leading
        ⟨line, firstFilled, firstFilled.reportedDirectory⟩ ?_ ?_
      · rwa [String.ofList_toList] at directory
      · intro other otherLeading
        rw [Option.some.inj ((parsed other).mp otherLeading), String.toList_ofList]
      · rintro _ ⟨other, otherFilled, rfl⟩
        exact otherFilled.reportedDirectory.symm

/-- Two texts whose first filled lines are the same but for blanks around them. -/
def SameFilledLine (text other : String) : Prop :=
  ∀ trimmed, TrimmedFilledLine text.toList trimmed ↔ TrimmedFilledLine other.toList trimmed

theorem TrimmedFilledLine.sameFilledLine {text other trimmed : String}
    (mine : TrimmedFilledLine text.toList trimmed) (theirs : TrimmedFilledLine other.toList trimmed) :
    SameFilledLine text other := by
  have unique : ∀ {s t : String}, TrimmedFilledLine s.toList t → t = Probe.reportedDirectory (trimBlanks s) := by
    rintro s _ ⟨line, firstFilled, rfl⟩
    exact firstFilled.reportedDirectory.symm
  intro found
  constructor
  · intro here
    rwa [unique here, ← unique mine]
  · intro there
    rwa [unique there, ← unique theirs]

theorem SameFilledLine.leadingVersion_iff {text other : String} (same : SameFilledLine text other)
    (number : List Char) : LeadingVersion other.toList number ↔ LeadingVersion text.toList number := by
  rw [ClangAccess.leadingVersion_iff, ClangAccess.leadingVersion_iff]
  exact exists_congr fun trimmed => and_congr_left' (same trimmed).symm

/-- The version of a tool is accepted in both of two cases or in neither. Once it is they come out the same, and if
it is not, they come out the same when the outputs for it differ in nothing but the blanks around them. -/
structure ConfigAgreement (exe : Path) (said otherSaid : String) (outcome other : ProbeOutcome) : Prop where
  rejected : (∃ quoted, other = .error (.unparseableVersion exe quoted)) ↔
    ∃ quoted, outcome = .error (.unparseableVersion exe quoted)
  accepted : (¬∃ quoted, outcome = .error (.unparseableVersion exe quoted)) → other = outcome
  padded : trimBlanks otherSaid = trimBlanks said → other = outcome

theorem ConfigReading.agree {exe : Path} {said listed otherSaid otherListed : String}
    {outcome other : ProbeOutcome} (mine : ConfigReading exe said listed outcome)
    (theirs : ConfigReading exe otherSaid otherListed other) (sameSaid : SameFilledLine said otherSaid)
    (sameListed : SameFilledLine listed otherListed) : ConfigAgreement exe said otherSaid outcome other := by
  have leads := sameSaid.leadingVersion_iff
  by_cases versioned : ∃ number, LeadingVersion said.toList number
  · have otherVersioned := (exists_congr leads).mpr versioned
    obtain ⟨number, leading⟩ := versioned
    have mineAccepted := mine.accepted.mpr (exists_leadingVersion_iff.mp ⟨number, leading⟩)
    have theirsAccepted := theirs.accepted.mpr (exists_leadingVersion_iff.mp otherVersioned)
    have same : other = outcome := by
      by_cases filled : ∃ line, FirstFilledLine listed.toList line
      · obtain ⟨line, firstFilled⟩ := filled
        have trimmed : TrimmedFilledLine listed.toList _ := ⟨line, firstFilled, rfl⟩
        rw [(mine.found _).mpr ⟨number, _, leading, trimmed, rfl⟩,
          (theirs.found _).mpr ⟨number, _, (leads number).mpr leading, (sameListed _).mp trimmed, rfl⟩]
      · have otherwise : ¬∃ line, FirstFilledLine otherListed.toList line := by
          rintro ⟨line, firstFilled⟩
          obtain ⟨mine, isFirst, _⟩ := (sameListed _).mpr ⟨line, firstFilled, rfl⟩
          exact filled ⟨mine, isFirst⟩
        rw [mine.empty.mpr ⟨⟨number, leading⟩, filled⟩, theirs.empty.mpr ⟨otherVersioned, otherwise⟩]
    exact ⟨iff_of_false theirsAccepted mineAccepted, fun _ => same, fun _ => same⟩
  · have otherUnversioned := mt (exists_congr leads).mp versioned
    have mineRejected := (mine.rejected _).mpr ⟨versioned, rfl⟩
    have theirsRejected := (theirs.rejected _).mpr ⟨otherUnversioned, rfl⟩
    refine ⟨iff_of_true ⟨_, theirsRejected⟩ ⟨_, mineRejected⟩, ?_, ?_⟩
    · exact fun accepted => absurd ⟨_, mineRejected⟩ accepted
    · intro padded
      rw [mineRejected, theirsRejected, padded]

theorem Site.Prints.reading {s : Site} {timeout : Nat} {exe : Path} {said listed : Bytes}
    (versionPrinted : s.Prints timeout exe ["--version"] said)
    (directoryPrinted : s.Prints timeout exe ["--libdir"] listed) (found : s.find "llvm-config" = some exe) :
    ConfigReading exe said.lossy listed.lossy (Probe.llvmConfig.outcome (s.host timeout)) := by
  rw [@Probe.llvmConfig_outcome (s.host timeout) _ _ _ found versionPrinted.answer directoryPrinted.answer]
  exact Probe.configOutcome_reading exe said.lossy listed.lossy

/-- On a machine whose `llvm-config` answers, the probe goes by the first filled line of each of its two outputs.
What else the outputs hold is of no account once the version is accepted, and what the tool writes as errors never
is. -/
theorem config_read_by_filled_lines (s : Site) (timeout : Nat) (exe : Path) (said listed : Bytes)
    (found : s.find "llvm-config" = some exe) (versionPrinted : s.Prints timeout exe ["--version"] said)
    (directoryPrinted : s.Prints timeout exe ["--libdir"] listed) :
    ConfigReading exe said.lossy listed.lossy (Probe.llvmConfig.outcome (s.host timeout)) ∧
    ∀ (other : Site) (otherTimeout : Nat) (otherSaid otherListed : Bytes),
      other.find "llvm-config" = some exe → other.Prints otherTimeout exe ["--version"] otherSaid →
      other.Prints otherTimeout exe ["--libdir"] otherListed →
      SameFilledLine said.lossy otherSaid.lossy → SameFilledLine listed.lossy otherListed.lossy →
      ConfigAgreement exe said.lossy otherSaid.lossy (Probe.llvmConfig.outcome (s.host timeout))
        (Probe.llvmConfig.outcome (other.host otherTimeout)) := by
  have reading := versionPrinted.reading directoryPrinted found
  refine ⟨reading, fun other otherTimeout otherSaid otherListed otherFound otherVersion otherDirectory => ?_⟩
  exact reading.agree (otherVersion.reading otherDirectory otherFound)

/-- A machine with an `llvm-config` that works, and complains. -/
def configSite (said listed complaint : Bytes) : Site where
  env _ := none
  find _ := some (.ofText "/c")
  launch _ args := .ended 9 .success (if args = ["--version"] then said else listed) complaint
  canonical? _ := none

section

variable (said listed complaint : Bytes)

theorem configSite_prints_version :
    (configSite said listed complaint).Prints 10 (.ofText "/c") ["--version"] said :=
  ⟨9, complaint, by decide, rfl⟩

theorem configSite_prints_directory :
    (configSite said listed complaint).Prints 10 (.ofText "/c") ["--libdir"] listed :=
  ⟨9, complaint, by decide, rfl⟩

end

theorem leadingVersion_plain : LeadingVersion "7.0".toList ['7', '.', '0'] := by
  refine ⟨_, .last (by decide) ⟨'7', by decide, by decide⟩, ?_⟩
  have number : VersionNumber ['7', '.', '0'] :=
    @VersionNumber.mk ['7'] ['0'] nofun nofun (List.forall_mem_singleton.mpr (by decide))
      (List.forall_mem_singleton.mpr (by decide))
  exact @OpensWith.mk ['7', '.', '0'] [] number nofun

/-- Blank lines, carriage returns, more lines and a complaint change nothing. -/
theorem rough_config_read_as_plain :
    let plain := configSite (.ofText "7.0") (.ofText "/l") []
    let rough := configSite (.ofText "\n\t7.0\r\nx") (.ofText " \r\n/l \n/m") (.ofText "old")
    plain.Prints 10 (.ofText "/c") ["--version"] (.ofText "7.0") ∧
      plain.Prints 10 (.ofText "/c") ["--libdir"] (.ofText "/l") ∧
      rough.Prints 10 (.ofText "/c") ["--version"] (.ofText "\n\t7.0\r\nx") ∧
      rough.Prints 10 (.ofText "/c") ["--libdir"] (.ofText " \r\n/l \n/m") ∧
      Probe.llvmConfig.outcome (plain.host 10) = .ok (some ⟨.ofText "/l", some (.ofText "/c"), some "7.0"⟩) ∧
      Probe.llvmConfig.outcome (rough.host 10) = Probe.llvmConfig.outcome (plain.host 10) := by
  intro plain rough
  have version : plain.Prints 10 (.ofText "/c") ["--version"] (.ofText "7.0") := configSite_prints_version ..
  have directory : plain.Prints 10 (.ofText "/c") ["--libdir"] (.ofText "/l") := configSite_prints_directory ..
  have roughVersion : rough.Prints 10 (.ofText "/c") ["--version"] (.ofText "\n\t7.0\r\nx") :=
    configSite_prints_version ..
  have roughDirectory : rough.Prints 10 (.ofText "/c") ["--libdir"] (.ofText " \r\n/l \n/m") :=
    configSite_prints_directory ..
  have versionLine : TrimmedFilledLine "7.0".toList "7.0" :=
    ⟨_, .last (by decide) ⟨'7', by decide, by decide⟩, rfl⟩
  have directoryLine : TrimmedFilledLine "/l".toList "/l" :=
    ⟨_, .last (by decide) ⟨'/', by decide, by decide⟩, rfl⟩
  have roughVersionLine : TrimmedFilledLine "\n\t7.0\r\nx".toList "7.0" := by
    have line := @FirstFilledLine.ended ['\t', '7', '.', '0', '\r'] ['x'] (by decide) ⟨'7', by decide, by decide⟩
    exact ⟨_, @FirstFilledLine.later [] _ _ (by decide) nofun line, rfl⟩
  have roughDirectoryLine : TrimmedFilledLine " \r\n/l \n/m".toList "/l" := by
    have line := @FirstFilledLine.ended ['/', 'l', ' '] ['/', 'm'] (by decide) ⟨'/', by decide, by decide⟩
    have blanks : ∀ c ∈ [' ', '\r'], isBlank c = true :=
      List.forall_mem_cons.mpr ⟨by decide, List.forall_mem_singleton.mpr isBlank_carriageReturn⟩
    exact ⟨_, @FirstFilledLine.later [' ', '\r'] _ _ (by decide) blanks line, rfl⟩
  obtain ⟨reading, agree⟩ := config_read_by_filled_lines plain 10 (.ofText "/c") _ _ rfl version directory
  have agreement := agree rough 10 _ _ rfl roughVersion roughDirectory
  rw [Bytes.lossy_ofText, Bytes.lossy_ofText] at reading
  rw [Bytes.lossy_ofText, Bytes.lossy_ofText, Bytes.lossy_ofText, Bytes.lossy_ofText] at agreement
  have found := (reading.found _).mpr ⟨_, "/l", leadingVersion_plain, directoryLine, rfl⟩
  have agreed := agreement (versionLine.sameFilledLine roughVersionLine)
    (directoryLine.sameFilledLine roughDirectoryLine)
  refine ⟨version, directory, roughVersion, roughDirectory, found, agreed.accepted ?_⟩
  rintro ⟨quoted, rejected⟩
  exact nomatch found.symm.trans rejected

/-- Of a version that is not accepted more is quoted than the first filled line. -/
theorem trailing_line_quoted :
    let short := configSite (.ofText "x") (.ofText "/l") []
    let long := configSite (.ofText "x\ny") (.ofText "/l") []
    short.find "llvm-config" = some (.ofText "/c") ∧ long.find "llvm-config" = some (.ofText "/c") ∧
      short.Prints 10 (.ofText "/c") ["--version"] (.ofText "x") ∧
      long.Prints 10 (.ofText "/c") ["--version"] (.ofText "x\ny") ∧
      short.Prints 10 (.ofText "/c") ["--libdir"] (.ofText "/l") ∧
      long.Prints 10 (.ofText "/c") ["--libdir"] (.ofText "/l") ∧
      SameFilledLine (Bytes.ofText "x").lossy (Bytes.ofText "x\ny").lossy ∧
      Probe.llvmConfig.outcome (short.host 10) = .error (.unparseableVersion (.ofText "/c") "x") ∧
      Probe.llvmConfig.outcome (long.host 10) = .error (.unparseableVersion (.ofText "/c") "x\ny") ∧
      Probe.llvmConfig.outcome (long.host 10) ≠ Probe.llvmConfig.outcome (short.host 10) := by
  intro short long
  have version : short.Prints 10 (.ofText "/c") ["--version"] (.ofText "x") := configSite_prints_version ..
  have directory : short.Prints 10 (.ofText "/c") ["--libdir"] (.ofText "/l") := configSite_prints_directory ..
  have longVersion : long.Prints 10 (.ofText "/c") ["--version"] (.ofText "x\ny") := configSite_prints_version ..
  have longDirectory : long.Prints 10 (.ofText "/c") ["--libdir"] (.ofText "/l") := configSite_prints_directory ..
  have line : TrimmedFilledLine "x".toList "x" := ⟨_, .last (by decide) ⟨'x', by decide, by decide⟩, rfl⟩
  have longLine : TrimmedFilledLine "x\ny".toList "x" :=
    ⟨_, @FirstFilledLine.ended ['x'] ['y'] (by decide) ⟨'x', by decide, by decide⟩, rfl⟩
  have same := line.sameFilledLine longLine
  have reading := version.reading directory rfl
  have longReading := longVersion.reading longDirectory rfl
  rw [Bytes.lossy_ofText, Bytes.lossy_ofText] at reading longReading
  have unversioned : ¬∃ number, LeadingVersion "x".toList number := by
    rintro ⟨number, leading⟩
    obtain ⟨version, rfl⟩ : ∃ version : String, number = version.toList :=
      ⟨String.ofList number, String.toList_ofList.symm⟩
    have read := (@plainVersion?_trimBlanks "x" version).mpr leading
    have none : plainVersion? (trimBlanks "x") = none := by decide
    exact nomatch none.symm.trans read
  have longUnversioned := mt (exists_congr same.leadingVersion_iff).mp unversioned
  have quoted := (reading.rejected "x").mpr ⟨unversioned, rfl⟩
  have longQuoted := (longReading.rejected "x\ny").mpr ⟨longUnversioned, rfl⟩
  refine ⟨rfl, rfl, version, longVersion, directory, longDirectory, ?_, quoted, longQuoted, ?_⟩
  · rwa [Bytes.lossy_ofText, Bytes.lossy_ofText]
  · rw [quoted, longQuoted]
    decide

end ClangAccess
