import ClangAccess.Diagnostic
import Mathlib.Algebra.BigOperators.Group.List.Basic
import Mathlib.Tactic.Ring

namespace ClangAccess

/-- How often a text breaks off a line. -/
def newlines (s : String) : Nat := s.toList.count '\n'

theorem newlines_append (s t : String) : newlines (s ++ t) = newlines s + newlines t := by
  rw [newlines, String.toList_append, List.count_append, newlines, newlines]

theorem newlines_eq_zero {s : String} : newlines s = 0 ↔ '\n' ∉ s.toList := List.count_eq_zero

theorem toList_number (n : UInt32) : (toString n).toList = Nat.toDigits 10 n.toNat := Nat.toList_repr

theorem isDigit_of_mem_number {n : UInt32} {c : Char} (member : c ∈ (toString n).toList) : c.isDigit = true := by
  rw [toList_number] at member
  exact Nat.isDigit_of_mem_toDigits (by decide) (by decide) member

theorem newlines_number (n : UInt32) : newlines (toString n) = 0 :=
  newlines_eq_zero.mpr fun member => absurd (isDigit_of_mem_number member) (by decide)

/-- Some lines as one text, each with the newline that ends it. -/
def endedLines (lines : List String) : String := String.join (lines.map fun line => line ++ "\n")

theorem endedLines_append (lines more : List String) :
    endedLines (lines ++ more) = endedLines lines ++ endedLines more := by
  rw [endedLines, List.map_append, String.join_append, endedLines, endedLines]

theorem endedLines_cons (line : String) (rest : List String) :
    endedLines (line :: rest) = line ++ "\n" ++ endedLines rest := by
  rw [endedLines, List.map_cons, String.join_cons, endedLines]

theorem toList_endedLines_cons (line : String) (rest : List String) :
    (endedLines (line :: rest)).toList = line.toList ++ '\n' :: (endedLines rest).toList := by
  rw [endedLines_cons, String.toList_append, String.toList_append, List.append_assoc]
  rfl

theorem newlines_endedLines (lines : List String) :
    newlines (endedLines lines) = lines.length + (lines.map newlines).sum := by
  induction lines with
  | nil => rfl
  | cons line rest ih =>
    unfold newlines at ih ⊢
    rw [toList_endedLines_cons, List.count_append, List.count_cons_self, ih, List.map_cons, List.sum_cons,
      List.length_cons]
    omega

theorem length_splitOn_newline (cs : List Char) : (cs.splitOn '\n').length = cs.count '\n' + 1 := by
  induction cs with
  | nil => rfl
  | cons c cs ih =>
    rw [List.splitOn_cons_eq_if_modifyHead, List.count_cons]
    split
    · rw [List.length_cons, ih]
    · rw [List.length_modifyHead, ih, Nat.add_zero]

theorem sum_newlines_eq_zero {lines : List String} :
    (lines.map newlines).sum = 0 ↔ ∀ line ∈ lines, newlines line = 0 := by
  rw [List.sum_eq_zero_iff_forall_eq_nat, List.forall_mem_map]

/-- Lines are found again in their text if none of them holds a newline, and only then. -/
theorem splitOn_endedLines_iff (lines : List String) :
    (endedLines lines).toList.splitOn '\n' = lines.map String.toList ++ [[]] ↔
      ∀ line ∈ lines, newlines line = 0 := by
  constructor
  · intro split
    have count := length_splitOn_newline (endedLines lines).toList
    rw [split, List.length_append, List.length_map, List.length_singleton] at count
    have more := newlines_endedLines lines
    have none : (lines.map newlines).sum = 0 := by
      unfold newlines at more ⊢
      omega
    exact sum_newlines_eq_zero.mp none
  · intro plain
    induction lines with
    | nil => rfl
    | cons line rest ih =>
      obtain ⟨here, later⟩ := List.forall_mem_cons.mp plain
      rw [toList_endedLines_cons, List.splitOn_append_cons_self, ih later,
        List.splitOn_eq_singleton (newlines_eq_zero.mp here)]
      rfl

theorem FixIt.newlines_rangeText (range : Option (SourceLocation × SourceLocation)) :
    newlines (rangeText range) = 0 := by
  cases range with
  | none => rfl
  | some places =>
    simp only [rangeText, newlines_append, newlines_number]
    rfl

/-- An edit is told on one line but for the newlines that it puts in. -/
theorem FixIt.newlines_display (f : FixIt) : newlines f.display = newlines f.replacement := by
  have verb : newlines f.verb = 0 := by
    unfold FixIt.verb
    split <;> rfl
  have opening : newlines " with \"" = 0 := rfl
  have closing : newlines "\"" = 0 := rfl
  rw [display, newlines_append, newlines_append, verb, newlines_rangeText]
  split
  · rename_i empty
    rw [String.isEmpty_iff.mp empty, Nat.add_zero, Nat.zero_add]
  · rw [newlines_append, newlines_append, opening, closing]
    omega

namespace Diagnostic

/-- The file and line that a diagnostic is about, if it is about any. -/
def tag (d : Diagnostic) : String :=
  match d.location with
  | none => ""
  | some l => l.file ++ ":" ++ toString l.line

/-- The lines that a report owes a diagnostic: one to itself and one to each of its edits, all under one tag. -/
def lines (d : Diagnostic) : List String :=
  (d.tag ++ ": " ++ d.severity.label ++ ": " ++ d.message) :: d.fixits.map fun f => d.tag ++ ":     " ++ f.display

/-- A diagnostic in which nothing that a compiler words holds a newline. -/
structure OneLine (d : Diagnostic) : Prop where
  message : '\n' ∉ d.message.toList
  file : ∀ l, d.location = some l → '\n' ∉ l.file.toList
  replacements : ∀ f ∈ d.fixits, '\n' ∉ f.replacement.toList

/-- The newlines that a diagnostic brings into a report: those of its message, those of its file's name in every
line, and those of the replacements. -/
def broughtNewlines (d : Diagnostic) : Nat :=
  newlines d.message + (1 + d.fixits.length) * (d.location.map fun l => newlines l.file).getD 0 +
    (d.fixits.map fun f => newlines f.replacement).sum

variable (d : Diagnostic)

theorem fileLine_eq_tag : d.fileLine = d.tag := by
  unfold fileLine tag
  cases d.location with
  | none => rfl
  | some l => rfl

theorem entry_eq_endedLines : d.entry = endedLines d.lines := by
  rw [entry, fileLine_eq_tag, endedLines, lines, List.map_cons, List.map_map, String.join_cons]
  rfl

theorem newlines_tag : newlines d.tag = (d.location.map fun l => newlines l.file).getD 0 := by
  unfold tag
  cases d.location with
  | none => rfl
  | some l =>
    rw [newlines_append, newlines_append, newlines_number]
    rfl

/-- What a diagnostic brings in is all that stands between its lines and their being lines. -/
theorem newlines_lines : (d.lines.map newlines).sum = d.broughtNewlines := by
  have label : newlines d.severity.label = 0 := by cases d.severity <;> rfl
  have colon : newlines ": " = 0 := rfl
  have indent : newlines ":     " = 0 := rfl
  have edits : d.fixits.map (newlines ∘ fun f => d.tag ++ ":     " ++ f.display) =
      d.fixits.map fun f => newlines d.tag + newlines f.replacement := by
    refine List.map_congr_left fun f _ => ?_
    rw [Function.comp_apply, newlines_append, newlines_append, indent, FixIt.newlines_display, Nat.add_zero]
  have own : newlines (d.tag ++ ": " ++ d.severity.label ++ ": " ++ d.message) =
      newlines d.tag + newlines d.message := by
    simp only [newlines_append, label, colon, Nat.add_zero]
  rw [lines, List.map_cons, List.sum_cons, List.map_map, own, edits, List.sum_map_add, List.map_const',
    List.sum_replicate_nat, broughtNewlines, ← newlines_tag]
  ring

theorem broughtNewlines_eq_zero_iff : d.broughtNewlines = 0 ↔ d.OneLine := by
  rw [broughtNewlines, Nat.add_eq_zero_iff, Nat.add_eq_zero_iff, Nat.mul_eq_zero, or_iff_right (by omega),
    List.sum_eq_zero_iff_forall_eq_nat, List.forall_mem_map, newlines_eq_zero]
  constructor
  · rintro ⟨⟨message, file⟩, replacements⟩
    refine ⟨message, fun l there => ?_, fun f member => newlines_eq_zero.mp (replacements f member)⟩
    rw [there] at file
    exact newlines_eq_zero.mp file
  · intro oneLine
    refine ⟨⟨oneLine.message, ?_⟩, fun f member => newlines_eq_zero.mpr (oneLine.replacements f member)⟩
    cases there : d.location with
    | none => rfl
    | some l => exact newlines_eq_zero.mpr (oneLine.file l there)

end Diagnostic

/-- The lines that a report owes some diagnostics: theirs in their order, and a blank one after them if there are
any. -/
def owedLines (diagnostics : List Diagnostic) : List String :=
  diagnostics.flatMap Diagnostic.lines ++ if diagnostics.isEmpty then [] else [""]

variable (diagnostics : List Diagnostic)

theorem report_eq_endedLines : report diagnostics = endedLines (owedLines diagnostics) := by
  have entries : String.join (diagnostics.map Diagnostic.entry) =
      endedLines (diagnostics.flatMap Diagnostic.lines) := by
    induction diagnostics with
    | nil => rfl
    | cons d rest ih =>
      rw [List.map_cons, String.join_cons, ih, d.entry_eq_endedLines, List.flatMap_cons, endedLines_append]
  rw [report, owedLines, endedLines_append, entries]
  cases diagnostics <;> rfl

theorem length_owedLines : (owedLines diagnostics).length =
    (diagnostics.map fun d => 1 + d.fixits.length).sum + if diagnostics.isEmpty then 0 else 1 := by
  have each : List.length ∘ Diagnostic.lines = fun d => 1 + d.fixits.length := by
    funext d
    rw [Function.comp_apply, Diagnostic.lines, List.length_cons, List.length_map, Nat.add_comm]
  rw [owedLines, List.length_append, List.length_flatMap, ← Function.comp_def, each]
  cases diagnostics <;> rfl

theorem newlines_owedLines :
    ((owedLines diagnostics).map newlines).sum = (diagnostics.map Diagnostic.broughtNewlines).sum := by
  have last : ((if diagnostics.isEmpty then [] else [""]).map newlines).sum = 0 := by
    split <;> rfl
  rw [owedLines, List.map_append, List.sum_append, last, Nat.add_zero]
  clear last
  induction diagnostics with
  | nil => rfl
  | cons d rest ih =>
    rw [List.flatMap_cons, List.map_append, List.sum_append, ih, d.newlines_lines, List.map_cons, List.sum_cons]

theorem sum_broughtNewlines_eq_zero :
    (diagnostics.map Diagnostic.broughtNewlines).sum = 0 ↔ ∀ d ∈ diagnostics, d.OneLine := by
  rw [List.sum_eq_zero_iff_forall_eq_nat, List.forall_mem_map]
  exact forall₂_congr fun d _ => d.broughtNewlines_eq_zero_iff

/-- How a report on some diagnostics falls into lines. It is made of the lines that it owes, each with a newline after
it; that these are the lines that a reader finds, and as many as there are newlines, is so as long as nothing that the
diagnostics bring in holds a newline. -/
structure ReportLines (diagnostics : List Diagnostic) (text : String) : Prop where
  written : text = String.join ((owedLines diagnostics).map fun line => line ++ "\n")
  count : text.toList.count '\n' = (diagnostics.map fun d => 1 + d.fixits.length).sum +
    (if diagnostics.isEmpty then 0 else 1) + (diagnostics.map Diagnostic.broughtNewlines).sum
  found : text.toList.splitOn '\n' = (owedLines diagnostics).map String.toList ++ [[]] ↔
    ∀ d ∈ diagnostics, d.OneLine
  counted : text.toList.count '\n' = (diagnostics.map fun d => 1 + d.fixits.length).sum +
    (if diagnostics.isEmpty then 0 else 1) ↔ ∀ d ∈ diagnostics, d.OneLine

/-- A report keeps a line to each diagnostic and to each edit if what they say fits on a line, and only then. -/
theorem report_line_per_entry_iff : ReportLines diagnostics (report diagnostics) := by
  have count := newlines_endedLines (owedLines diagnostics)
  rw [← report_eq_endedLines, length_owedLines, newlines_owedLines] at count
  constructor
  case written => exact report_eq_endedLines diagnostics
  case count => exact count
  case found =>
    rw [report_eq_endedLines, splitOn_endedLines_iff, ← sum_newlines_eq_zero, newlines_owedLines,
      sum_broughtNewlines_eq_zero]
  case counted =>
    rw [← sum_broughtNewlines_eq_zero]
    unfold newlines at count
    omega

/-- What a compiler says of a file that ends within a line, with the edit that ends the line. -/
def unendedFile : Diagnostic where
  severity := .warning
  message := "no newline at end of file"
  location := some ⟨"a", 3, 2⟩
  fixits := [⟨some (⟨"a", 3, 2⟩, ⟨"a", 3, 2⟩), "\n"⟩]

/-- The edit takes up two lines, so that a report has four where it owes three. -/
theorem inserted_newline_breaks_line :
    owedLines [unendedFile] =
        ["a:3: warning: no newline at end of file", "a:3:     replace 3:2-3:2 with \"\n\"", ""] ∧
      ((report [unendedFile]).toList.splitOn '\n').map String.ofList =
        ["a:3: warning: no newline at end of file", "a:3:     replace 3:2-3:2 with \"", "\"", "", ""] ∧
      (report [unendedFile]).toList.splitOn '\n' ≠ (owedLines [unendedFile]).map String.toList ++ [[]] ∧
      (report [unendedFile]).toList.count '\n' = 4 ∧
      ([unendedFile].map fun d => 1 + d.fixits.length).sum + 1 = 3 := by
  exact ⟨by decide, by decide, by decide, by decide, rfl⟩

end ClangAccess
