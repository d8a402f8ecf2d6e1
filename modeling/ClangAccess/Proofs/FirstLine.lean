import ClangAccess.Probe
import Mathlib.Data.List.Basic
import Mathlib.Data.List.TakeWhile

namespace ClangAccess

/-- What is left of the first line of a text when the blanks at its two ends are gone. -/
structure TrimmedFirstLine (text line : String) : Prop where
  split : ∃ left right rest, text.toList = left ++ line.toList ++ right ++ rest ∧
    '\n' ∉ left ++ line.toList ++ right ∧ (rest = [] ∨ rest.head? = some '\n') ∧
    (∀ c ∈ left, isBlank c = true) ∧ ∀ c ∈ right, isBlank c = true
  begins : ∀ c ∈ line.toList.head?, isBlank c = false
  ends : ∀ c ∈ line.toList.getLast?, isBlank c = false

theorem isBlank_of_head?_dropWhile {cs : List Char} {c : Char} (first : c ∈ (cs.dropWhile isBlank).head?) :
    isBlank c = false := by
  have stop := List.head?_dropWhile_not isBlank cs
  rwa [first] at stop

theorem trimBlanks_split (s : String) : ∃ left right, s.toList = left ++ (trimBlanks s).toList ++ right ∧
    (∀ c ∈ left, isBlank c = true) ∧ (∀ c ∈ right, isBlank c = true) ∧
    (∀ c ∈ (trimBlanks s).toList.head?, isBlank c = false) ∧
    ∀ c ∈ (trimBlanks s).toList.getLast?, isBlank c = false := by
  let rest := s.toList.dropWhile isBlank
  have front : s.toList = s.toList.takeWhile isBlank ++ rest := List.takeWhile_append_dropWhile.symm
  have trimmed : (trimBlanks s).toList = (rest.reverse.dropWhile isBlank).reverse := by
    rw [trimBlanks, String.toList_ofList]
  have back : rest = (trimBlanks s).toList ++ (rest.reverse.takeWhile isBlank).reverse := by
    rw [trimmed, ← List.reverse_append, List.takeWhile_append_dropWhile, List.reverse_reverse]
  refine ⟨s.toList.takeWhile isBlank, (rest.reverse.takeWhile isBlank).reverse, ?_, ?_, ?_, ?_, ?_⟩
  · rw [List.append_assoc, ← back, ← front]
  · exact fun c member => List.mem_takeWhile_imp member
  · exact fun c member => List.mem_takeWhile_imp (List.mem_reverse.mp member)
  · intro c first
    have same : rest.head? = some c := by rw [back, List.head?_append, first, Option.some_or]
    exact isBlank_of_head?_dropWhile same
  · intro c last
    rw [trimmed, List.getLast?_reverse] at last
    exact isBlank_of_head?_dropWhile last

theorem dropCarriageReturn_split (cs : List Char) :
    ∃ ending, cs = dropCarriageReturn cs ++ ending ∧ (ending = [] ∨ ending = ['\r']) := by
  unfold dropCarriageReturn
  split
  · rename_i last
    exact ⟨['\r'], (List.dropLast_append_getLast? '\r' last).symm, Or.inr rfl⟩
  · exact ⟨[], (List.append_nil cs).symm, Or.inl rfl⟩

theorem upToNewline_split (cs : List Char) : ∃ rest, cs = (upToNewline cs).1 ++ rest ∧
    '\n' ∉ (upToNewline cs).1 ∧ (rest = [] ∨ rest.head? = some '\n') := by
  refine ⟨cs.dropWhile (· ≠ '\n'), List.takeWhile_append_dropWhile.symm, ?_, ?_⟩
  · intro member
    simpa using List.mem_takeWhile_imp member
  · have stop := List.head?_dropWhile_not (· ≠ '\n') cs
    cases first : cs.dropWhile (· ≠ '\n') with
    | nil => exact Or.inl rfl
    | cons c more =>
      rw [first, List.head?_cons] at stop
      exact Or.inr (congrArg some (by simpa using stop))

/-- The first line ends before the first newline, or before a carriage return that directly precedes it. -/
theorem firstLine?_split (s : String) : ∃ ending rest,
    s.toList = ((firstLine? s).getD "").toList ++ ending ++ rest ∧
      '\n' ∉ ((firstLine? s).getD "").toList ++ ending ∧ (rest = [] ∨ rest.head? = some '\n') ∧
      (ending = [] ∨ ending = ['\r']) := by
  obtain ⟨rest, whole, within, boundary⟩ := upToNewline_split s.toList
  suffices ∃ ending, (upToNewline s.toList).1 = ((firstLine? s).getD "").toList ++ ending ∧
      (ending = [] ∨ ending = ['\r']) by
    obtain ⟨ending, line, shape⟩ := this
    exact ⟨ending, rest, line ▸ whole, line ▸ within, boundary, shape⟩
  unfold firstLine?
  split
  · rename_i empty
    have nothing : s.toList = [] := by simpa using empty
    exact ⟨[], by simp [upToNewline, nothing], Or.inl rfl⟩
  · split
    · rename_i line cut
      simpa [cut] using dropCarriageReturn_split line
    · rename_i line cut
      exact ⟨[], by simp [cut], Or.inl rfl⟩

theorem isBlank_carriageReturn : isBlank '\r' = true := by decide

/-- The directory in the output of a tool is the first line without blanks around it. -/
theorem reportedDirectory_spec (output : String) : TrimmedFirstLine output (Probe.reportedDirectory output) := by
  obtain ⟨ending, rest, whole, within, boundary, shape⟩ := firstLine?_split output
  obtain ⟨left, right, line, atLeft, atRight, begins, ends⟩ := trimBlanks_split ((firstLine? output).getD "")
  rw [line] at whole within
  refine ⟨⟨left, right ++ ending, rest, ?_, ?_, boundary, atLeft, ?_⟩, begins, ends⟩
  · rw [whole, Probe.reportedDirectory, List.append_assoc _ right]
  · rwa [Probe.reportedDirectory, ← List.append_assoc]
  · intro c member
    rcases List.mem_append.mp member with early | late
    · exact atRight c early
    · rcases shape with rfl | rfl
      · exact absurd late List.not_mem_nil
      · rw [List.mem_singleton.mp late]
        exact isBlank_carriageReturn

end ClangAccess
