import ClangAccess.Proofs.ConfigOutput

namespace ClangAccess

/-- A name of one line with no blanks at its ends. -/
structure Bytes.PlainName (name : Bytes) : Prop where
  nonempty : name ≠ []
  oneLine : 0x0A ∉ name
  begins : ∀ c, isBlank c = true → ¬String.utf8EncodeChar c <+: name
  ends : ∀ c, isBlank c = true → ¬String.utf8EncodeChar c <:+ name

namespace Bytes.PlainName

variable {name : Bytes}

theorem newline_not_mem (plain : name.PlainName) : '\n' ∉ name.lossy.toList := by
  intro member
  obtain ⟨front, back, shows⟩ := List.append_of_mem member
  obtain ⟨before, after, whole, _⟩ := lossy_blank_split isBlank_newline shows
  refine plain.oneLine ?_
  have encoded : String.utf8EncodeChar '\n' = [0x0A] := by decide
  rw [whole, encoded]
  simp

theorem head_filled (plain : name.PlainName) : ∀ c ∈ name.lossy.toList.head?, isBlank c = false := by
  intro c first
  obtain ⟨back, shows⟩ := List.head?_eq_some_iff.mp first
  refine Bool.eq_false_iff.mpr fun blank => ?_
  obtain ⟨before, after, whole, atFront, _⟩ := @lossy_blank_split name c [] back blank shows
  rw [atFront rfl, List.nil_append] at whole
  exact plain.begins c blank ⟨after, whole.symm⟩

theorem last_filled (plain : name.PlainName) : ∀ c ∈ name.lossy.toList.getLast?, isBlank c = false := by
  intro c last
  obtain ⟨front, shows⟩ := List.getLast?_eq_some_iff.mp last
  refine Bool.eq_false_iff.mpr fun blank => ?_
  obtain ⟨before, after, whole, _, atBack⟩ := @lossy_blank_split name c front [] blank shows
  rw [atBack rfl, List.append_nil] at whole
  exact plain.ends c blank ⟨before, whole.symm⟩

/-- Such a name with a newline after it is read as the text that it shows as. -/
theorem trimmedFilledLine (plain : name.PlainName) :
    TrimmedFilledLine (name ++ [0x0A]).lossy.toList name.lossy := by
  rw [toList_lossy_newline]
  obtain ⟨c, rest, shows⟩ := List.exists_cons_of_ne_nil (lossy_nonempty plain.nonempty)
  have atFront : c ∈ name.lossy.toList.head? := by
    rw [shows]
    rfl
  have filled : ∃ c ∈ name.lossy.toList, isBlank c = false :=
    ⟨c, List.mem_of_head? atFront, plain.head_filled c atFront⟩
  refine ⟨name.lossy.toList, .ended plain.newline_not_mem filled, ?_⟩
  rw [String.ofList_toList, trimBlanks_of_filled_ends plain.head_filled plain.last_filled]

/-- A name is plain if it begins and ends with bytes that stand for characters, and these are not blanks. -/
theorem of_ascii_ends {a z : UInt8} (oneLine : 0x0A ∉ name) (first : a ∈ name.head?) (firstAscii : a.toNat < 0x80)
    (firstFilled : isBlank (Char.ofNat a.toNat) = false) (last : z ∈ name.getLast?) (lastAscii : z.toNat < 0x80)
    (lastFilled : isBlank (Char.ofNat z.toNat) = false) : name.PlainName where
  nonempty := by
    rintro rfl
    exact nomatch first
  oneLine := oneLine
  begins c blank := by
    rintro ⟨after, rfl⟩
    cases encodes : String.utf8EncodeChar c with
    | nil => exact String.utf8EncodeChar_ne_nil encodes
    | cons b tail =>
      obtain rfl : b = a := by simpa [encodes] using first
      rw [(Utf8.utf8EncodeChar_ascii encodes firstAscii).1] at blank
      exact nomatch firstFilled.symm.trans blank
  ends c blank := by
    rintro ⟨before, rfl⟩
    cases encodes : String.utf8EncodeChar c with
    | nil => exact String.utf8EncodeChar_ne_nil encodes
    | cons b tail =>
      rw [encodes, List.getLast?_append_of_ne_nil _ (List.cons_ne_nil b tail)] at last
      cases tail with
      | nil =>
        obtain rfl : b = z := by simpa using last
        rw [(Utf8.utf8EncodeChar_ascii encodes lastAscii).1] at blank
        exact nomatch lastFilled.symm.trans blank
      | cons d tail =>
        rw [List.getLast?_cons_cons] at last
        have high := Utf8.utf8EncodeChar_tail encodes z (List.mem_of_getLast? last)
        omega

end Bytes.PlainName

namespace Probe

variable {host : Host}

theorem libclangPath_misses (unset : host.Unset "LIBCLANG_PATH") : libclangPath.Misses host := by
  intro found finds
  have run := libclangPath_runs host
  rw [finds] at run
  cases run with
  | path set filled => exact nomatch (unset _ set).symm.trans filled

theorem llvmLibDir_misses (unset : host.Unset "LLVM_LIB_DIR") : llvmLibDir.Misses host := by
  intro found finds
  have run := llvmLibDir_runs host
  rw [finds] at run
  cases run with
  | root set filled => exact nomatch (unset _ set).symm.trans filled

end Probe

section

variable {s : Site} {timeout : Nat} {before rest : List Probe} {exe : Path} {said name : Bytes} {number : List Char}

/-- What a search finds on a machine where the sources before an `llvm-config` that works come to nothing. -/
theorem Site.locate_config (missed : ∀ probe ∈ before, probe.Misses (s.host timeout))
    (found : s.find "llvm-config" = some exe) (versionPrinted : s.Prints timeout exe ["--version"] said)
    (leading : LeadingVersion said.lossy.toList number)
    (directoryPrinted : s.Prints timeout exe ["--libdir"] (name ++ [0x0A])) (plain : name.PlainName)
    (verbosity : LogLevel) :
    (((⟨before ++ .llvmConfig :: rest⟩ : Locator).locate verbosity (s.host timeout).toPlatform).conduct
      (s.host timeout)).result =
      .ok (.ofDiscovery .llvmConfig ⟨.ofText name.lossy, some exe, some (String.ofList number)⟩) := by
  have finds := ((versionPrinted.reading directoryPrinted found).found _).mpr
    ⟨number, _, leading, plain.trimmedFilledLine, rfl⟩
  rw [(Locator.locate_account _ verbosity (s.host timeout)).1]
  exact (Locator.search_first missed finds).1

end

/-- What a search returns for the directory that an `llvm-config` names is the text that the name shows as. So the
name comes through unaltered if it is text, and only then. -/
theorem reported_directory_kept_iff_text (s : Site) (timeout : Nat) (before rest : List Probe) (exe : Path)
    (said name : Bytes) (number : List Char) (missed : ∀ probe ∈ before, probe.Misses (s.host timeout))
    (found : s.find "llvm-config" = some exe) (versionPrinted : s.Prints timeout exe ["--version"] said)
    (leading : LeadingVersion said.lossy.toList number)
    (directoryPrinted : s.Prints timeout exe ["--libdir"] (name ++ [0x0A])) (plain : name.PlainName)
    (verbosity : LogLevel) :
    ∃ t, (((⟨before ++ .llvmConfig :: rest⟩ : Locator).locate verbosity (s.host timeout).toPlatform).conduct
        (s.host timeout)).result = .ok t ∧
      t.source = .llvmConfig ∧ t.executable = some exe ∧ t.version = some (String.ofList number) ∧
      t.libraryDir = .ofText name.lossy ∧ (t.libraryDir = ⟨name⟩ ↔ ∃ text, name = Bytes.ofText text) := by
  refine ⟨_, Site.locate_config missed found versionPrinted leading directoryPrinted plain verbosity,
    rfl, rfl, rfl, rfl, ?_⟩
  rw [← Bytes.ofText_lossy_eq_iff]
  exact Path.mk.injEq _ _ ▸ Iff.rfl

theorem configSite_misses (said listed complaint : Bytes) (timeout : Nat) :
    ∀ probe ∈ [Probe.libclangPath, .llvmLibDir], probe.Misses ((configSite said listed complaint).host timeout) :=
  List.forall_mem_cons.mpr ⟨Probe.libclangPath_misses nofun,
    List.forall_mem_singleton.mpr (Probe.llvmLibDir_misses nofun)⟩

/-- A directory with a character of two bytes in its name is kept. -/
theorem accented_directory_kept :
    let s := configSite (.ofText "7.0") (Bytes.ofText "/é/l" ++ [0x0A]) []
    (∀ probe ∈ [Probe.libclangPath, .llvmLibDir], probe.Misses (s.host 10)) ∧
      s.Prints 10 (.ofText "/c") ["--libdir"] (Bytes.ofText "/é/l" ++ [0x0A]) ∧ (Bytes.ofText "/é/l").PlainName ∧
      ∃ t, ((({} : Locator).locate .off (s.host 10).toPlatform).conduct (s.host 10)).result = .ok t ∧
        t.libraryDir = .ofText "/é/l" := by
  intro s
  have missed := configSite_misses (.ofText "7.0") (Bytes.ofText "/é/l" ++ [0x0A]) [] 10
  have version : s.Prints 10 (.ofText "/c") ["--version"] (.ofText "7.0") := configSite_prints_version ..
  have directory : s.Prints 10 (.ofText "/c") ["--libdir"] (Bytes.ofText "/é/l" ++ [0x0A]) :=
    configSite_prints_directory ..
  have plain : (Bytes.ofText "/é/l").PlainName :=
    @Bytes.PlainName.of_ascii_ends _ 0x2F 0x6C (by decide) rfl (by decide) (by decide) rfl (by decide) (by decide)
  obtain ⟨t, located, -, -, -, -, kept⟩ :=
    reported_directory_kept_iff_text s 10 [.libclangPath, .llvmLibDir] [.clangDriver, .windowsClangDriver]
      (.ofText "/c") (.ofText "7.0") (.ofText "/é/l") ['7', '.', '0'] missed rfl version
      ((Bytes.lossy_ofText "7.0").symm ▸ leadingVersion_plain) directory plain .off
  exact ⟨missed, directory, plain, t, located, kept.mpr ⟨"/é/l", rfl⟩⟩

/-- The same directory with that character in one byte, as older file systems have it. -/
def latinName : Bytes := [0x2F, 0xE9, 0x2F, 0x6C]

/-- A search returns a directory that the tool did not name. -/
theorem latin_directory_altered :
    let s := configSite (.ofText "7.0") (latinName ++ [0x0A]) []
    (∀ probe ∈ [Probe.libclangPath, .llvmLibDir], probe.Misses (s.host 10)) ∧
      s.find "llvm-config" = some (.ofText "/c") ∧
      s.Prints 10 (.ofText "/c") ["--version"] (.ofText "7.0") ∧
      LeadingVersion (Bytes.ofText "7.0").lossy.toList ['7', '.', '0'] ∧
      s.Prints 10 (.ofText "/c") ["--libdir"] (latinName ++ [0x0A]) ∧ latinName.PlainName ∧
      ∃ t, ((({} : Locator).locate .off (s.host 10).toPlatform).conduct (s.host 10)).result = .ok t ∧
        t.source = .llvmConfig ∧ t.libraryDir = ⟨[0x2F, 0xEF, 0xBF, 0xBD, 0x2F, 0x6C]⟩ ∧
        t.libraryDir ≠ ⟨latinName⟩ := by
  intro s
  have missed := configSite_misses (.ofText "7.0") (latinName ++ [0x0A]) [] 10
  have version : s.Prints 10 (.ofText "/c") ["--version"] (.ofText "7.0") := configSite_prints_version ..
  have directory : s.Prints 10 (.ofText "/c") ["--libdir"] (latinName ++ [0x0A]) := configSite_prints_directory ..
  have leading : LeadingVersion (Bytes.ofText "7.0").lossy.toList ['7', '.', '0'] := by
    rw [Bytes.lossy_ofText]
    exact leadingVersion_plain
  have plain : latinName.PlainName :=
    @Bytes.PlainName.of_ascii_ends _ 0x2F 0x6C (by decide) rfl (by decide) (by decide) rfl (by decide) (by decide)
  have located := @Site.locate_config s 10 _ [.clangDriver, .windowsClangDriver] _ _ _ _ missed rfl version leading
    directory plain .off
  have shows : latinName.lossy.toList = ['/', Char.ofNat 0xFFFD, '/', 'l'] := String.toList_ofList.trans (by decide)
  have altered : Bytes.ofText latinName.lossy = [0x2F, 0xEF, 0xBF, 0xBD, 0x2F, 0x6C] := by
    rw [Bytes.ofText, shows]
    decide
  have other : [0x2F, 0xEF, 0xBF, 0xBD, 0x2F, 0x6C] ≠ latinName := by decide
  refine ⟨missed, rfl, version, leading, directory, plain, _, located, rfl, congrArg Path.mk altered, ?_⟩
  exact fun same => other (altered.symm.trans (Path.mk.inj same))

end ClangAccess
