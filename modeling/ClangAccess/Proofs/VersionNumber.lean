import ClangAccess.Proofs.FirstLine

namespace ClangAccess

/-- Digits, a dot and digits. -/
inductive VersionNumber : List Char → Prop
  | mk {major minor} : major ≠ [] → minor ≠ [] → (∀ c ∈ major, isDecimalDigit c = true) →
      (∀ c ∈ minor, isDecimalDigit c = true) → VersionNumber (major ++ '.' :: minor)

/-- A text opens with a number, and no digit after it could be part of it. -/
inductive OpensWith : List Char → List Char → Prop
  | mk {number rest} : VersionNumber number → (∀ c ∈ rest.head?, isDecimalDigit c = false) →
      OpensWith (number ++ rest) number

theorem digits_split {ds rest : List Char} (digits : ∀ c ∈ ds, isDecimalDigit c = true)
    (stops : ∀ c ∈ rest.head?, isDecimalDigit c = false) :
    (ds ++ rest).takeWhile isDecimalDigit = ds ∧ (ds ++ rest).dropWhile isDecimalDigit = rest := by
  rw [List.takeWhile_append_of_pos digits, List.dropWhile_append_of_pos digits]
  cases rest with
  | nil => exact ⟨List.append_nil ds, rfl⟩
  | cons c rest => simp [stops c rfl]

theorem isDecimalDigit_of_mem_takeWhile (cs : List Char) :
    ∀ c ∈ cs.takeWhile isDecimalDigit, isDecimalDigit c = true :=
  fun _ member => List.mem_takeWhile_imp member

theorem not_isDecimalDigit_of_head?_dropWhile (cs : List Char) :
    ∀ c ∈ (cs.dropWhile isDecimalDigit).head?, isDecimalDigit c = false := by
  intro c first
  have stop := List.head?_dropWhile_not isDecimalDigit cs
  rwa [first] at stop

/-- What opens with some number opens with the longest there is. -/
theorem VersionNumber.opensWith {number : List Char} (isNumber : VersionNumber number) (rest : List Char) :
    ∃ longest, OpensWith (number ++ rest) longest := by
  cases isNumber with
  | @mk major minor some more digits moreDigits =>
    have longer : VersionNumber (major ++ '.' :: (minor ++ rest.takeWhile isDecimalDigit)) := by
      refine .mk some (by simp [more]) digits (List.forall_mem_append.mpr ⟨moreDigits, ?_⟩)
      exact isDecimalDigit_of_mem_takeWhile rest
    have whole := OpensWith.mk longer (not_isDecimalDigit_of_head?_dropWhile rest)
    have same : major ++ '.' :: (minor ++ rest.takeWhile isDecimalDigit) ++ rest.dropWhile isDecimalDigit =
        major ++ '.' :: minor ++ rest := by
      simp only [List.append_assoc, List.cons_append, List.takeWhile_append_dropWhile]
    exact ⟨_, same ▸ whole⟩

namespace Version

variable {cs number : List Char}

theorem leading?_eq_some : leading? cs = some number ↔ OpensWith cs number := by
  constructor
  · intro read
    simp only [leading?] at read
    split at read
    · rename_i rest cut
      split at read
      · cases read
      · rename_i some
        simp only [Bool.or_eq_true, List.isEmpty_iff, not_or] at some
        cases read
        have isNumber := VersionNumber.mk some.1 some.2 (isDecimalDigit_of_mem_takeWhile cs)
          (isDecimalDigit_of_mem_takeWhile rest)
        have opened := OpensWith.mk isNumber (not_isDecimalDigit_of_head?_dropWhile rest)
        rw [List.append_assoc, List.cons_append, List.takeWhile_append_dropWhile, ← cut,
          List.takeWhile_append_dropWhile] at opened
        exact opened
    · cases read
  · rintro ⟨⟨some, more, digits, moreDigits⟩, stops⟩
    rename_i rest major minor
    have dot : ∀ c ∈ ('.' :: (minor ++ rest)).head?, isDecimalDigit c = false := by
      rintro c ⟨⟩
      decide
    have first := digits_split digits dot
    have second := digits_split moreDigits stops
    rw [List.append_assoc, List.cons_append, leading?, first.1, first.2]
    simp [second.1, some, more]

theorem afterMarker?_eq_some :
    afterMarker? cs = some number ↔ ∃ rest, cs = marker ++ rest ∧ OpensWith rest number := by
  unfold afterMarker?
  split
  · rename_i opens
    obtain ⟨rest, rfl⟩ := List.isPrefixOf_iff_prefix.mp opens
    rw [List.drop_left, leading?_eq_some]
    simp
  · rename_i opens
    refine iff_of_false nofun ?_
    rintro ⟨rest, rfl, _⟩
    exact opens (List.isPrefixOf_iff_prefix.mpr (List.prefix_append marker rest))

theorem marker_ne_nil : marker ≠ [] := by decide

/-- A number is announced at the first marker that is followed by one. -/
theorem announced?_eq_some : announced? cs = some number ↔ ∃ before rest, cs = before ++ marker ++ rest ∧
    OpensWith rest number ∧ ∀ earlier tail other, cs = earlier ++ marker ++ tail → OpensWith tail other →
      before.length ≤ earlier.length := by
  induction cs with
  | nil =>
    refine iff_of_false (by simp only [announced?, reduceCtorEq, not_false_iff]) ?_
    rintro ⟨before, rest, whole, _⟩
    exact marker_ne_nil (List.append_eq_nil_iff.mp (List.append_eq_nil_iff.mp whole.symm).1).2
  | cons c cs ih =>
    cases here : afterMarker? (c :: cs) with
    | some v =>
      simp only [announced?, here]
      obtain ⟨rest, whole, opens⟩ := afterMarker?_eq_some.mp here
      constructor
      · rintro ⟨⟩
        exact ⟨[], rest, whole, opens, fun _ _ _ _ _ => Nat.zero_le _⟩
      · rintro ⟨before, tail, other, opensOther, leftmost⟩
        have none := List.length_eq_zero_iff.mp (Nat.le_zero.mp (leftmost [] rest v whole opens))
        subst none
        rw [← here]
        exact afterMarker?_eq_some.mpr ⟨tail, other, opensOther⟩
    | none =>
      simp only [announced?, here]
      -- No number stands at the front, so every announcement is one of the rest, a character further on.
      have later : ∀ before rest v, c :: cs = before ++ marker ++ rest → OpensWith rest v →
          ∃ shorter, before = c :: shorter ∧ cs = shorter ++ marker ++ rest := by
        intro before rest v whole opens
        cases before with
        | nil => exact nomatch here.symm.trans (afterMarker?_eq_some.mpr ⟨rest, whole, opens⟩)
        | cons d shorter =>
          obtain ⟨rfl, same⟩ := List.cons.inj whole
          exact ⟨shorter, rfl, same⟩
      rw [ih]
      constructor
      · rintro ⟨before, rest, rfl, opens, leftmost⟩
        refine ⟨c :: before, rest, rfl, opens, fun earlier tail other whole opensOther => ?_⟩
        obtain ⟨shorter, rfl, same⟩ := later earlier tail other whole opensOther
        exact Nat.succ_le_succ (leftmost shorter tail other same opensOther)
      · rintro ⟨before, rest, whole, opens, leftmost⟩
        obtain ⟨shorter, rfl, same⟩ := later before rest number whole opens
        refine ⟨shorter, rest, same, opens, fun earlier tail other elsewhere opensOther => ?_⟩
        exact Nat.le_of_succ_le_succ (leftmost (c :: earlier) tail other (congrArg _ elsewhere) opensOther)

theorem announced?_of_afterMarker? (here : afterMarker? cs = some number) : announced? cs = some number := by
  cases cs with
  | nil =>
    obtain ⟨rest, whole, _⟩ := afterMarker?_eq_some.mp here
    exact absurd (List.append_eq_nil_iff.mp whole.symm).1 marker_ne_nil
  | cons c cs => simp only [announced?, here]

/-- No announcement is missed, wherever it stands. -/
theorem exists_announced (before : List Char) {rest : List Char} (opens : OpensWith rest number) :
    ∃ v, announced? (before ++ marker ++ rest) = some v := by
  induction before with
  | nil => exact ⟨number, announced?_of_afterMarker? (afterMarker?_eq_some.mpr ⟨rest, rfl, opens⟩)⟩
  | cons c before ih =>
    simp only [List.cons_append, announced?]
    split
    · exact ⟨_, rfl⟩
    · exact ih

end Version

/-- The text before the first newline, without a carriage return that directly precedes it. A text without a
newline is one line. -/
inductive FirstLine : List Char → List Char → Prop
  | only {line} : '\n' ∉ line → FirstLine line line
  | newline {line rest} : '\n' ∉ line → line.getLast? ≠ some '\r' → FirstLine (line ++ '\n' :: rest) line
  | carriageReturn {line rest} : '\n' ∉ line → FirstLine (line ++ '\r' :: '\n' :: rest) line

theorem upToNewline_only {line : List Char} (within : '\n' ∉ line) : upToNewline line = (line, false) := by
  refine Prod.ext (List.takeWhile_eq_self_iff.mpr fun c member => ?_) (by simpa [upToNewline] using within)
  exact decide_eq_true (ne_of_mem_of_not_mem member within)

theorem upToNewline_newline {line : List Char} (rest : List Char) (within : '\n' ∉ line) :
    upToNewline (line ++ '\n' :: rest) = (line, true) := by
  have front : (line ++ '\n' :: rest).takeWhile (· ≠ '\n') = line := by
    rw [List.takeWhile_append_of_pos fun c member => decide_eq_true (ne_of_mem_of_not_mem member within)]
    exact List.append_nil line
  exact Prod.ext front (by simp [upToNewline])

theorem dropCarriageReturn_none {cs : List Char} (other : cs.getLast? ≠ some '\r') : dropCarriageReturn cs = cs :=
  if_neg other

theorem dropCarriageReturn_concat (cs : List Char) : dropCarriageReturn (cs ++ ['\r']) = cs := by
  simp [dropCarriageReturn]

theorem firstLine?_toList (s : String) : ((firstLine? s).getD "").toList =
    if (upToNewline s.toList).2 then dropCarriageReturn (upToNewline s.toList).1 else (upToNewline s.toList).1 := by
  unfold firstLine?
  split
  · rename_i empty
    have nothing : s.toList = [] := by simpa using empty
    simp [nothing, upToNewline]
  · split <;> rename_i line cut <;> simp [cut]

theorem FirstLine.eq {s : String} {line : List Char} (first : FirstLine s.toList line) :
    ((firstLine? s).getD "").toList = line := by
  rw [firstLine?_toList]
  generalize s.toList = cs at first
  cases first with
  | only within => simp [upToNewline_only within]
  | @newline _ rest within other => simp [upToNewline_newline rest within, dropCarriageReturn_none other]
  | @carriageReturn _ rest within =>
    have cut : '\n' ∉ line ++ ['\r'] := by simp [within]
    have whole := upToNewline_newline rest cut
    rw [List.append_assoc, List.singleton_append] at whole
    simp [whole, dropCarriageReturn_concat]

theorem firstLine_before_newline {line : List Char} (rest : List Char) (within : '\n' ∉ line) :
    ∃ first ending, FirstLine (line ++ '\n' :: rest) first ∧ line = first ++ ending ∧
      (ending = [] ∨ ending = ['\r']) := by
  by_cases last : line.getLast? = some '\r'
  · obtain ⟨first, rfl⟩ := List.getLast?_eq_some_iff.mp last
    refine ⟨first, ['\r'], ?_, rfl, Or.inr rfl⟩
    rw [List.append_assoc]
    exact .carriageReturn fun member => within (List.mem_append_left _ member)
  · exact ⟨line, [], .newline within last, (List.append_nil line).symm, Or.inl rfl⟩

theorem exists_firstLine (cs : List Char) : ∃ line, FirstLine cs line := by
  obtain ⟨rest, whole, within, boundary⟩ := upToNewline_split cs
  generalize (upToNewline cs).1 = cut at whole within
  subst whole
  cases rest with
  | nil => exact ⟨cut, by rw [List.append_nil]; exact .only within⟩
  | cons c rest =>
    obtain rfl : c = '\n' := by simpa using boundary
    obtain ⟨first, _, isFirst, _⟩ := firstLine_before_newline rest within
    exact ⟨first, isFirst⟩

/-- A text has one first line. -/
theorem firstLine_iff {s : String} {line : List Char} :
    FirstLine s.toList line ↔ ((firstLine? s).getD "").toList = line := by
  refine ⟨FirstLine.eq, fun same => ?_⟩
  obtain ⟨first, isFirst⟩ := exists_firstLine s.toList
  rwa [← same, isFirst.eq]

theorem driverVersion?_eq {s : String} {line : List Char} (first : FirstLine s.toList line) :
    driverVersion? s = (Version.announced? line).map String.ofList := by
  rw [← first.eq, driverVersion?]
  cases firstLine? s <;> rfl

/-- The number at the first of the places in a line where `version ` is followed by a number. -/
inductive LeftmostVersion (line : List Char) : List Char → Prop
  | mk {before number after} : line = before ++ "version ".toList ++ number ++ after → VersionNumber number →
      (∀ c ∈ after.head?, isDecimalDigit c = false) →
      (∀ earlier other rest, line = earlier ++ "version ".toList ++ other ++ rest → VersionNumber other →
        before.length ≤ earlier.length) →
      LeftmostVersion line number

theorem Version.announced?_iff {line number : List Char} :
    announced? line = some number ↔ LeftmostVersion line number := by
  rw [announced?_eq_some]
  constructor
  · rintro ⟨before, _, whole, ⟨isNumber, stops⟩, leftmost⟩
    rename_i after
    refine .mk (whole.trans (List.append_assoc ..).symm) isNumber stops fun earlier other rest elsewhere isOther => ?_
    obtain ⟨longest, opens⟩ := isOther.opensWith rest
    exact leftmost earlier (other ++ rest) longest (elsewhere.trans (List.append_assoc ..)) opens
  · rintro ⟨whole, isNumber, stops, leftmost⟩
    rename_i before after
    refine ⟨before, number ++ after, whole.trans (List.append_assoc ..), .mk isNumber stops, ?_⟩
    rintro earlier _ _ elsewhere ⟨isOther, _⟩
    exact leftmost earlier _ _ (elsewhere.trans (List.append_assoc ..).symm) isOther

/-- What is read of a driver's output: the leftmost version on its first line, if there is one. -/
structure DriverVersionRead (output : String) (line : List Char) : Prop where
  first : FirstLine output.toList line
  unique : ∀ other, FirstLine output.toList other → other = line
  accepted : (∃ version, driverVersion? output = some version) ↔
    ∃ before number after, line = before ++ "version ".toList ++ number ++ after ∧ VersionNumber number
  leftmost : ∀ version, driverVersion? output = some version ↔ LeftmostVersion line version.toList
  onlyFirst : ∀ other : String, FirstLine other.toList line → driverVersion? other = driverVersion? output

theorem driver_version_is_leftmost (output : String) : ∃ line, DriverVersionRead output line := by
  obtain ⟨line, first⟩ := exists_firstLine output.toList
  have leftmost : ∀ version, driverVersion? output = some version ↔ LeftmostVersion line version.toList := by
    intro version
    rw [driverVersion?_eq first, ← Version.announced?_iff, Option.map_eq_some_iff]
    constructor
    · rintro ⟨number, announced, rfl⟩
      rw [announced, String.toList_ofList]
    · exact fun announced => ⟨version.toList, announced, String.ofList_toList⟩
  refine ⟨line, first, fun other otherFirst => otherFirst.eq.symm.trans first.eq, ?_, leftmost, ?_⟩
  · constructor
    · rintro ⟨version, read⟩
      obtain ⟨whole, isNumber, _, _⟩ := (leftmost version).mp read
      exact ⟨_, _, _, whole, isNumber⟩
    · rintro ⟨before, number, after, whole, isNumber⟩
      obtain ⟨longest, opens⟩ := isNumber.opensWith after
      obtain ⟨v, announced⟩ := Version.exists_announced before opens
      refine ⟨String.ofList v, ?_⟩
      rw [driverVersion?_eq first, whole, List.append_assoc]
      exact congrArg (Option.map String.ofList) announced
  · intro other otherFirst
    rw [driverVersion?_eq first, driverVersion?_eq otherFirst]

end ClangAccess
