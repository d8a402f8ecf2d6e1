import ClangAccess.Proofs.ProbeRun
import ClangAccess.Proofs.VersionNumber
import ClangAccess.Site
import Mathlib.Data.List.DropRight

namespace ClangAccess

/-- The first line of a text that holds more than blanks. Lines are what stands between newlines. -/
inductive FirstFilledLine : List Char → List Char → Prop
  | last {line} : '\n' ∉ line → (∃ c ∈ line, isBlank c = false) → FirstFilledLine line line
  | ended {line rest} : '\n' ∉ line → (∃ c ∈ line, isBlank c = false) → FirstFilledLine (line ++ '\n' :: rest) line
  | later {blank rest line} : '\n' ∉ blank → (∀ c ∈ blank, isBlank c = true) → FirstFilledLine rest line →
      FirstFilledLine (blank ++ '\n' :: rest) line

theorem isBlank_newline : isBlank '\n' = true := by decide

/-- Before the line there are only blanks, and what comes after it begins with a newline. -/
theorem FirstFilledLine.split {text line : List Char} (first : FirstFilledLine text line) :
    ∃ before after, text = before ++ line ++ after ∧ (∀ c ∈ before, isBlank c = true) ∧ '\n' ∉ line ∧
      (∃ c ∈ line, isBlank c = false) ∧ (after = [] ∨ ∃ rest, after = '\n' :: rest) := by
  induction first with
  | @last line within filled => exact ⟨[], [], (List.append_nil line).symm, nofun, within, filled, Or.inl rfl⟩
  | @ended line rest within filled => exact ⟨[], '\n' :: rest, rfl, nofun, within, filled, Or.inr ⟨rest, rfl⟩⟩
  | @later blank rest line _ blanks _ ih =>
    obtain ⟨before, after, rfl, atLeft, within, filled, boundary⟩ := ih
    refine ⟨blank ++ '\n' :: before, after, by simp, ?_, within, filled, boundary⟩
    exact List.forall_mem_append.mpr ⟨blanks, List.forall_mem_cons.mpr ⟨isBlank_newline, atLeft⟩⟩

theorem blank_or_filled (cs : List Char) : (∀ c ∈ cs, isBlank c = true) ∨ ∃ c ∈ cs, isBlank c = false := by
  by_cases blank : ∀ c ∈ cs, isBlank c = true
  · exact Or.inl blank
  · simp only [not_forall, Bool.not_eq_true] at blank
    obtain ⟨c, member, filled⟩ := blank
    exact Or.inr ⟨c, member, filled⟩

/-- A text that holds more than blanks has such a line. -/
theorem exists_firstFilledLine {text : List Char} (filled : ∃ c ∈ text, isBlank c = false) :
    ∃ line, FirstFilledLine text line := by
  induction size : text.length using Nat.strongRecOn generalizing text with
  | ind n ih =>
    obtain ⟨rest, whole, within, boundary⟩ := upToNewline_split text
    generalize (upToNewline text).1 = cut at whole within
    subst whole
    rcases blank_or_filled cut with blank | some
    · cases rest with
      | nil =>
        obtain ⟨c, member, full⟩ := filled
        rw [List.append_nil] at member
        exact nomatch (blank c member).symm.trans full
      | cons d rest =>
        obtain rfl : d = '\n' := by simpa using boundary
        obtain ⟨c, member, full⟩ := filled
        have further : ∃ c ∈ rest, isBlank c = false := by
          rcases List.mem_append.mp member with early | late
          · exact nomatch (blank c early).symm.trans full
          · rcases List.mem_cons.mp late with rfl | late
            · exact nomatch isBlank_newline.symm.trans full
            · exact ⟨c, late, full⟩
        obtain ⟨line, first⟩ := ih rest.length (by simp [← size]; omega) further rfl
        exact ⟨line, .later within blank first⟩
    · cases rest with
      | nil => exact ⟨cut, by rw [List.append_nil]; exact .last within some⟩
      | cons d rest =>
        obtain rfl : d = '\n' := by simpa using boundary
        exact ⟨cut, .ended within some⟩

section Trimming

variable {cs left right : List Char}

theorem toList_trimBlanks (s : String) : (trimBlanks s).toList = (s.toList.dropWhile isBlank).rdropWhile isBlank :=
  String.toList_ofList

theorem rdropWhile_append_blank (blank : ∀ c ∈ right, isBlank c = true) :
    (cs ++ right).rdropWhile isBlank = cs.rdropWhile isBlank := by
  rw [List.rdropWhile, List.reverse_append,
    List.dropWhile_append_of_pos fun c member => blank c (List.mem_reverse.mp member), List.rdropWhile]

theorem dropWhile_append_filled (filled : ∃ c ∈ cs, isBlank c = false) :
    (cs ++ right).dropWhile isBlank = cs.dropWhile isBlank ++ right := by
  obtain ⟨c, member, full⟩ := filled
  have some : cs.dropWhile isBlank ≠ [] := by
    intro none
    exact nomatch (List.dropWhile_eq_nil_iff.mp none c member).symm.trans full
  rw [List.dropWhile_append, if_neg (by simpa using some)]

theorem rdropWhile_append_filled (filled : ∃ c ∈ right, isBlank c = false) :
    (cs ++ right).rdropWhile isBlank = cs ++ right.rdropWhile isBlank := by
  obtain ⟨c, member, full⟩ := filled
  rw [List.rdropWhile, List.reverse_append, dropWhile_append_filled ⟨c, List.mem_reverse.mpr member, full⟩,
    List.reverse_append, List.reverse_reverse, List.rdropWhile]

/-- Blanks around a text do not show once it is trimmed. -/
theorem trimBlanks_padded (atLeft : ∀ c ∈ left, isBlank c = true) (atRight : ∀ c ∈ right, isBlank c = true) :
    trimBlanks (String.ofList (left ++ cs ++ right)) = trimBlanks (String.ofList cs) := by
  refine String.toList_inj.mp ?_
  rw [toList_trimBlanks, toList_trimBlanks, String.toList_ofList, String.toList_ofList, List.append_assoc,
    List.dropWhile_append_of_pos atLeft]
  rcases blank_or_filled cs with blank | filled
  · rw [List.dropWhile_eq_nil_iff.mpr (List.forall_mem_append.mpr ⟨blank, atRight⟩),
      List.dropWhile_eq_nil_iff.mpr blank]
  · rw [dropWhile_append_filled filled, rdropWhile_append_blank atRight]

theorem trimBlanks_isEmpty {s : String} : (trimBlanks s).isEmpty = true ↔ ∀ c ∈ s.toList, isBlank c = true := by
  rw [String.isEmpty_iff, ← String.toList_eq_nil_iff, toList_trimBlanks, List.rdropWhile_eq_nil_iff]
  constructor
  · intro blank c member
    rw [← List.takeWhile_append_dropWhile (p := isBlank) (l := s.toList), List.mem_append] at member
    exact member.elim List.mem_takeWhile_imp (blank c)
  · intro blank c member
    exact blank c ((List.dropWhile_sublist isBlank).subset member)

theorem trimBlanks_of_filled_ends {s : String} (begins : ∀ c ∈ s.toList.head?, isBlank c = false)
    (ends : ∀ c ∈ s.toList.getLast?, isBlank c = false) : trimBlanks s = s := by
  refine String.toList_inj.mp ?_
  rw [toList_trimBlanks]
  generalize s.toList = cs at begins ends
  have front : cs.dropWhile isBlank = cs := by
    cases cs with
    | nil => rfl
    | cons c cs => rw [List.dropWhile_cons_of_neg (by simp [begins c rfl])]
  rw [front, List.rdropWhile_eq_self_iff]
  intro some blank
  exact nomatch blank.symm.trans (ends _ (List.getLast?_eq_some_getLast some))

end Trimming

/-- The first line of a trimmed text is the first filled line of the text, but for blanks. -/
theorem FirstFilledLine.firstLine_trimmed {s : String} {line : List Char}
    (firstFilled : FirstFilledLine s.toList line) : ∃ first right, FirstLine (trimBlanks s).toList first ∧
      line.dropWhile isBlank = first ++ right ∧ ∀ c ∈ right, isBlank c = true := by
  obtain ⟨before, after, whole, atLeft, within, filled, boundary⟩ := firstFilled.split
  have bodyWithin : '\n' ∉ line.dropWhile isBlank :=
    fun member => within ((List.dropWhile_sublist isBlank).subset member)
  have trimmed : (trimBlanks s).toList = (line.dropWhile isBlank ++ after).rdropWhile isBlank := by
    rw [toList_trimBlanks, whole, List.append_assoc, List.dropWhile_append_of_pos atLeft,
      dropWhile_append_filled filled]
  generalize line.dropWhile isBlank = body at bodyWithin trimmed
  rw [trimmed]
  rcases blank_or_filled after with blank | more
  · -- The line is the last that is filled, and its end is trimmed.
    rw [rdropWhile_append_blank blank]
    have front := List.rdropWhile_append_rtakeWhile (p := isBlank) (l := body)
    refine ⟨body.rdropWhile isBlank, body.rtakeWhile isBlank, .only ?_, front.symm, ?_⟩
    · exact fun member => bodyWithin ((List.rdropWhile_prefix isBlank body).subset member)
    · exact fun c member => List.mem_rtakeWhile_imp member
  · obtain rfl | ⟨rest, rfl⟩ := boundary
    · obtain ⟨_, member, _⟩ := more
      exact nomatch member
    · have further : ∃ c ∈ rest, isBlank c = false := by
        obtain ⟨c, member, full⟩ := more
        rcases List.mem_cons.mp member with rfl | late
        · exact nomatch isBlank_newline.symm.trans full
        · exact ⟨c, late, full⟩
      rw [← List.singleton_append, ← List.append_assoc, rdropWhile_append_filled further, List.append_assoc,
        List.singleton_append]
      obtain ⟨first, right, isFirst, split, ending⟩ := firstLine_before_newline (rest.rdropWhile isBlank) bodyWithin
      refine ⟨first, right, isFirst, split, ?_⟩
      obtain rfl | rfl := ending
      · exact nofun
      · exact List.forall_mem_singleton.mpr isBlank_carriageReturn

/-- The directory in a trimmed output is the first filled line of the output, trimmed. -/
theorem FirstFilledLine.reportedDirectory {s : String} {line : List Char}
    (firstFilled : FirstFilledLine s.toList line) :
    Probe.reportedDirectory (trimBlanks s) = trimBlanks (String.ofList line) := by
  obtain ⟨first, right, isFirst, body, atRight⟩ := firstFilled.firstLine_trimmed
  have whole : line = line.takeWhile isBlank ++ first ++ right := by
    rw [List.append_assoc, ← body, List.takeWhile_append_dropWhile]
  have same := firstLine_iff.mp isFirst
  rw [whole, trimBlanks_padded (fun _ member => List.mem_takeWhile_imp member) atRight, Probe.reportedDirectory]
  exact congrArg trimBlanks (String.toList_inj.mp (same.trans (String.toList_ofList).symm))

theorem reportedDirectory_isEmpty {s : String} :
    (Probe.reportedDirectory (trimBlanks s)).isEmpty = true ↔ ¬∃ line, FirstFilledLine s.toList line := by
  constructor
  · rintro empty ⟨line, firstFilled⟩
    obtain ⟨_, _, _, _, _, ⟨c, member, full⟩, _⟩ := firstFilled.split
    rw [firstFilled.reportedDirectory, trimBlanks_isEmpty, String.toList_ofList] at empty
    exact nomatch (empty c member).symm.trans full
  · intro none
    have blank := (blank_or_filled s.toList).resolve_right fun filled => none (exists_firstFilledLine filled)
    rw [String.isEmpty_iff.mp (trimBlanks_isEmpty.mpr blank)]
    rfl

theorem isBlank_of_isDecimalDigit {c : Char} (digit : isDecimalDigit c = true) : isBlank c = false := by
  have apart : ∀ digits ∈ decimalDigitRanges, ∀ blanks ∈ blankRanges,
      digits.2 < blanks.1 ∨ blanks.2 < digits.1 := by decide
  obtain ⟨digits, member, low, high⟩ := inRanges_iff.mp digit
  refine Bool.eq_false_iff.mpr fun blank => ?_
  obtain ⟨blanks, within, above, below⟩ := inRanges_iff.mp blank
  have separate := apart digits member blanks within
  omega

theorem VersionNumber.getLast? {number : List Char} (isNumber : VersionNumber number) :
    ∃ c, number.getLast? = some c ∧ isDecimalDigit c = true := by
  cases isNumber with
  | @mk major minor _ some _ digits =>
    have last := List.getLast?_eq_some_getLast some
    refine ⟨minor.getLast some, ?_, digits _ (List.getLast_mem some)⟩
    rw [List.getLast?_append, List.getLast?_cons, last]
    rfl

/-- Blanks after a text are not part of the number that it opens with. -/
theorem opensWith_append_blank {cs right number : List Char} (blank : ∀ c ∈ right, isBlank c = true) :
    OpensWith (cs ++ right) number ↔ OpensWith cs number := by
  have noDigit : ∀ c ∈ right, isDecimalDigit c = false := by
    intro c member
    refine Bool.eq_false_iff.mpr fun digit => ?_
    exact nomatch (isBlank_of_isDecimalDigit digit).symm.trans (blank c member)
  constructor
  · intro opens
    generalize whole : cs ++ right = text at opens
    cases opens with
    | @mk _ rest isNumber stops =>
      obtain ⟨more, rfl, rfl⟩ | ⟨more, rfl, rfl⟩ := List.append_eq_append_iff.mp whole
      · -- The number ends in a digit, so none of it lies among the blanks.
        obtain rfl : more = [] := by
          obtain ⟨c, last, digit⟩ := isNumber.getLast?
          by_contra some
          rw [List.getLast?_append_of_ne_nil _ some] at last
          exact nomatch (noDigit c (List.mem_append_left _ (List.mem_of_getLast? last))).symm.trans digit
        rw [List.append_nil] at isNumber ⊢
        have whole : OpensWith (cs ++ []) cs := .mk isNumber nofun
        rwa [List.append_nil] at whole
      · exact .mk isNumber fun c first => stops c (by rw [List.head?_append, first]; rfl)
  · rintro ⟨isNumber, stops⟩
    rename_i rest
    rw [List.append_assoc]
    refine .mk isNumber fun c first => ?_
    rw [List.head?_append] at first
    cases rest with
    | nil => exact noDigit c (List.mem_of_head? first)
    | cons d rest => exact stops c first

theorem plainVersion?_eq {s : String} {line : List Char} (first : FirstLine s.toList line) :
    plainVersion? s = (Version.leading? (line.dropWhile isBlank)).map String.ofList := by
  rw [← first.eq, plainVersion?]
  cases firstLine? s <;> rfl

theorem FirstFilledLine.plainVersion?_eq_some {s version : String} {line : List Char}
    (firstFilled : FirstFilledLine s.toList line) :
    plainVersion? (trimBlanks s) = some version ↔ OpensWith (line.dropWhile isBlank) version.toList := by
  obtain ⟨first, right, isFirst, body, atRight⟩ := firstFilled.firstLine_trimmed
  have begins : first.dropWhile isBlank = first := by
    cases first with
    | nil => rfl
    | cons c first =>
      have atFront : c ∈ (line.dropWhile isBlank).head? := by
        rw [body]
        rfl
      rw [List.dropWhile_cons_of_neg (by simp [isBlank_of_head?_dropWhile atFront])]
  rw [plainVersion?_eq isFirst, begins, body, opensWith_append_blank atRight, ← Version.leading?_eq_some,
    Option.map_eq_some_iff]
  constructor
  · rintro ⟨number, read, rfl⟩
    rw [read, String.toList_ofList]
  · exact fun read => ⟨version.toList, read, String.ofList_toList⟩

/-- The number that the first filled line of a text opens with, after blanks. -/
def LeadingVersion (text number : List Char) : Prop :=
  ∃ line, FirstFilledLine text line ∧ OpensWith (line.dropWhile isBlank) number

theorem exists_leadingVersion_iff {text : List Char} : (∃ number, LeadingVersion text number) ↔
    ∃ line number rest, FirstFilledLine text line ∧ line.dropWhile isBlank = number ++ rest ∧
      VersionNumber number := by
  constructor
  · rintro ⟨number, line, firstFilled, opens⟩
    generalize whole : line.dropWhile isBlank = body at opens
    cases opens with
    | @mk _ rest isNumber _ => exact ⟨line, number, rest, firstFilled, whole, isNumber⟩
  · rintro ⟨line, number, rest, firstFilled, whole, isNumber⟩
    obtain ⟨longest, opens⟩ := isNumber.opensWith rest
    exact ⟨longest, line, firstFilled, whole ▸ opens⟩

/-- The version in a trimmed output is the one that leads the output. -/
theorem plainVersion?_trimBlanks {s version : String} :
    plainVersion? (trimBlanks s) = some version ↔ LeadingVersion s.toList version.toList := by
  constructor
  · intro read
    rcases blank_or_filled s.toList with blank | filled
    · rw [String.isEmpty_iff.mp (trimBlanks_isEmpty.mpr blank)] at read
      exact nomatch read
    · obtain ⟨line, firstFilled⟩ := exists_firstFilledLine filled
      exact ⟨line, firstFilled, firstFilled.plainVersion?_eq_some.mp read⟩
  · rintro ⟨line, firstFilled, opens⟩
    exact firstFilled.plainVersion?_eq_some.mpr opens

/-- The first filled line of a text, trimmed. -/
def TrimmedFilledLine (text : List Char) (trimmed : String) : Prop :=
  ∃ line, FirstFilledLine text line ∧ trimmed = trimBlanks (String.ofList line)

/-- The number that leads a text is to be seen in its first filled line even if that is trimmed. -/
theorem leadingVersion_iff {text number : List Char} :
    LeadingVersion text number ↔ ∃ trimmed, TrimmedFilledLine text trimmed ∧ OpensWith trimmed.toList number := by
  have same : ∀ line : List Char, OpensWith (trimBlanks (String.ofList line)).toList number ↔
      OpensWith (line.dropWhile isBlank) number := by
    intro line
    rw [toList_trimBlanks, String.toList_ofList]
    have ending : ∀ c ∈ (line.dropWhile isBlank).rtakeWhile isBlank, isBlank c = true :=
      fun c member => List.mem_rtakeWhile_imp member
    rw [← opensWith_append_blank ending, List.rdropWhile_append_rtakeWhile]
  constructor
  · rintro ⟨line, firstFilled, opens⟩
    exact ⟨_, ⟨line, firstFilled, rfl⟩, (same line).mpr opens⟩
  · rintro ⟨_, ⟨line, firstFilled, rfl⟩, opens⟩
    exact ⟨line, firstFilled, (same line).mp opens⟩

end ClangAccess
