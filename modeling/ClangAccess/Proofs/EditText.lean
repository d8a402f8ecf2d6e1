import ClangAccess.Proofs.ReportLines
import ClangAccess.Proofs.VersionNumber

namespace ClangAccess

theorem number_injective : Function.Injective fun n : UInt32 => toString n := by
  intro m n same
  have digits := congrArg String.toList same
  rw [toList_number, toList_number] at digits
  have values := congrArg (Nat.ofDigitChars 10 · 0) digits
  simp only [Nat.ofDigitChars_ten_toDigits] at values
  exact UInt32.toNat_inj.mp values

theorem isDecimalDigit_of_mem_number (n : UInt32) : ∀ c ∈ (toString n).toList, isDecimalDigit c = true :=
  fun _ member => isDecimalDigit_of_isDigit (isDigit_of_mem_number member)

/-- A number can be told from what follows it as long as that does not go on with a digit. -/
theorem number_told {m n : UInt32} {rest more : List Char} (stops : ∀ c ∈ rest.head?, isDecimalDigit c = false)
    (stopsMore : ∀ c ∈ more.head?, isDecimalDigit c = false)
    (same : (toString m).toList ++ rest = (toString n).toList ++ more) : m = n ∧ rest = more := by
  have first := digits_split (isDecimalDigit_of_mem_number m) stops
  have second := digits_split (isDecimalDigit_of_mem_number n) stopsMore
  rw [same] at first
  exact ⟨number_injective (String.toList_inj.mp (first.1.symm.trans second.1)), first.2.symm.trans second.2⟩

/-- Every number of a range but the last is ended by a sign of its own. -/
theorem number_told_before {m n : UInt32} {sign : Char} (isSign : isDecimalDigit sign = false)
    {rest more : List Char} (same : (toString m).toList ++ sign :: rest = (toString n).toList ++ sign :: more) :
    m = n ∧ rest = more := by
  have stops : ∀ (cs : List Char), ∀ c ∈ (sign :: cs).head?, isDecimalDigit c = false := by
    rintro cs c ⟨⟩
    exact isSign
  obtain ⟨numbers, tails⟩ := number_told (stops rest) (stops more) same
  exact ⟨numbers, (List.cons.inj tails).2⟩

namespace FixIt

/-- Two ranges with the same ends, whatever the files are called, or none on either side. -/
inductive SamePlaces : Option (SourceLocation × SourceLocation) → Option (SourceLocation × SourceLocation) → Prop
  | neither : SamePlaces none none
  | both {start stop start' stop'} : start.line = start'.line → start.column = start'.column →
      stop.line = stop'.line → stop.column = stop'.column → SamePlaces (some (start, stop)) (some (start', stop'))

/-- What may stand behind a range: nothing, or the words that announce a new text. -/
inductive BehindRange : List Char → Prop
  | nothing : BehindRange []
  | words {rest} : BehindRange (' ' :: 'w' :: rest)

theorem BehindRange.stops {rest : List Char} (behind : BehindRange rest) :
    ∀ c ∈ rest.head?, isDecimalDigit c = false := by
  cases behind with
  | nothing => exact nofun
  | words =>
    rintro c ⟨⟩
    decide

theorem toList_rangeText_some (start stop : SourceLocation) : (rangeText (some (start, stop))).toList =
    ' ' :: ((toString start.line).toList ++ ':' :: ((toString start.column).toList ++
      '-' :: ((toString stop.line).toList ++ ':' :: (toString stop.column).toList))) := by
  simp only [rangeText, String.toList_append, List.append_assoc]
  rfl

/-- Behind its blank a range goes on with a digit, the words behind a range with a letter. -/
theorem no_range_ne_range {rest : List Char} (behind : BehindRange rest) (start stop : SourceLocation)
    (more : List Char) : (rangeText none).toList ++ rest ≠ (rangeText (some (start, stop))).toList ++ more := by
  intro same
  -- No range has no text, so the words themselves would have to open like a range.
  change rest = _ at same
  rw [toList_rangeText_some] at same
  cases behind with
  | nothing => cases same
  | @words words =>
    have next := (List.cons.inj same).2
    cases digits : (toString start.line).toList with
    | nil =>
      rw [digits] at next
      cases next
    | cons d ds =>
      rw [digits] at next
      obtain rfl := (List.cons.inj next).1
      have digit : 'w' ∈ (toString start.line).toList := digits ▸ List.mem_cons_self
      exact absurd (isDigit_of_mem_number digit) (by decide)

/-- A range is read off its text up to the names of its files, and so is where it ends. -/
theorem range_told {r s : Option (SourceLocation × SourceLocation)} {rest more : List Char}
    (behind : BehindRange rest) (behindMore : BehindRange more)
    (same : (rangeText r).toList ++ rest = (rangeText s).toList ++ more) : SamePlaces r s ∧ rest = more := by
  cases r with
  | none =>
    cases s with
    | none => exact ⟨.neither, same⟩
    | some places => exact absurd same (no_range_ne_range behind places.1 places.2 more)
  | some places =>
    cases s with
    | none => exact absurd same.symm (no_range_ne_range behindMore places.1 places.2 rest)
    | some others =>
      obtain ⟨start, stop⟩ := places
      obtain ⟨start', stop'⟩ := others
      simp only [toList_rangeText_some, List.cons_append, List.append_assoc, List.cons.injEq, true_and] at same
      obtain ⟨startLine, same⟩ := number_told_before (by decide) same
      obtain ⟨startColumn, same⟩ := number_told_before (by decide) same
      obtain ⟨stopLine, same⟩ := number_told_before (by decide) same
      obtain ⟨stopColumn, same⟩ := number_told behind.stops behindMore.stops same
      exact ⟨.both startLine startColumn stopLine stopColumn, same⟩

theorem SamePlaces.rangeText_eq {r s : Option (SourceLocation × SourceLocation)} (places : SamePlaces r s) :
    rangeText r = rangeText s := by
  cases places with
  | neither => rfl
  | both startLine startColumn stopLine stopColumn =>
    simp only [rangeText, startLine, startColumn, stopLine, stopColumn]

/-- The end of an edit's text, which shows what is put in. -/
def newText (replacement : String) : String :=
  if replacement.isEmpty then "" else " with \"" ++ replacement ++ "\""

theorem newText_behindRange (replacement : String) : BehindRange (newText replacement).toList := by
  unfold newText
  split
  · exact .nothing
  · rw [String.toList_append, String.toList_append]
    exact .words

theorem newText_injective : Function.Injective newText := by
  intro s t same
  unfold newText at same
  split at same
  case isTrue empty =>
    split at same
    case isTrue emptyToo => exact (String.isEmpty_iff.mp empty).trans (String.isEmpty_iff.mp emptyToo).symm
    case isFalse => simpa using congrArg String.toList same
  case isFalse filled =>
    split at same
    case isTrue => simpa using congrArg String.toList same
    case isFalse => exact (String.append_right_inj _).mp ((String.append_left_inj _).mp same)

/-- The verbs part at their third letter, so neither begins a text that the other begins. -/
theorem verb_told {f g : FixIt} {rest more : List Char} (same : f.verb.toList ++ rest = g.verb.toList ++ more) :
    rest = more := by
  have either : ∀ h : FixIt, h.verb = "remove" ∨ h.verb = "replace" := fun h => by
    unfold verb
    exact ite_eq_or_eq ..
  rcases either f with verb | verb <;> rcases either g with verb' | verb' <;> rw [verb, verb'] at same
  · exact List.append_cancel_left same
  · cases same
  · cases same
  · exact List.append_cancel_left same

theorem display_eq (f : FixIt) : f.display = f.verb ++ rangeText f.range ++ newText f.replacement := rfl

/-- Whatever a replacement looks like, it stands last, behind words that no range goes on with. -/
theorem told_of_display_eq {f g : FixIt} (same : f.display = g.display) :
    f.replacement = g.replacement ∧ SamePlaces f.range g.range := by
  have texts := congrArg String.toList same
  simp only [display_eq, String.toList_append, List.append_assoc] at texts
  obtain ⟨places, behindRange⟩ :=
    range_told (newText_behindRange f.replacement) (newText_behindRange g.replacement) (verb_told texts)
  exact ⟨newText_injective (String.toList_inj.mp behindRange), places⟩

theorem display_eq_iff {f g : FixIt} :
    f.display = g.display ↔ f.replacement = g.replacement ∧ SamePlaces f.range g.range := by
  refine ⟨told_of_display_eq, ?_⟩
  rintro ⟨replacement, places⟩
  rw [display_eq, display_eq, verb, verb, replacement, places.rangeText_eq]

/-- An edit with other names for the files of its range. -/
def renamed (f : FixIt) (first last : String) : FixIt where
  range := f.range.map fun (start, stop) => ({ start with file := first }, { stop with file := last })
  replacement := f.replacement

theorem exists_renamed_iff {f g : FixIt} : (∃ first last, g = f.renamed first last) ↔
    f.replacement = g.replacement ∧ SamePlaces f.range g.range := by
  obtain ⟨range, replacement⟩ := f
  obtain ⟨range', replacement'⟩ := g
  constructor
  · rintro ⟨first, last, same⟩
    cases same
    refine ⟨rfl, ?_⟩
    cases range with
    | none => exact .neither
    | some places => exact .both rfl rfl rfl rfl
  · rintro ⟨rfl, places⟩
    cases places with
    | neither => exact ⟨"", "", rfl⟩
    | @both start stop start' stop' startLine startColumn stopLine stopColumn =>
      refine ⟨start'.file, stop'.file, ?_⟩
      simp only [renamed, Option.map_some, startLine, startColumn, stopLine, stopColumn]

end FixIt

theorem owedLines_around (before after : List Diagnostic) (d : Diagnostic) (earlier later : List FixIt) :
    ∃ opening closing, ∀ f : FixIt, owedLines (before ++ { d with fixits := earlier ++ f :: later } :: after) =
      opening ++ (d.tag ++ ":     " ++ f.display) :: closing := by
  refine ⟨before.flatMap Diagnostic.lines ++ Diagnostic.lines { d with fixits := earlier },
    (later.map fun edit => d.tag ++ ":     " ++ edit.display) ++ after.flatMap Diagnostic.lines ++ [""], fun f => ?_⟩
  simp [owedLines, Diagnostic.lines, Diagnostic.tag]

/-- What stands around the text of an edit in a report has nothing to do with the edit. -/
theorem report_around (before after : List Diagnostic) (d : Diagnostic) (earlier later : List FixIt) :
    ∃ front back, ∀ f : FixIt,
      report (before ++ { d with fixits := earlier ++ f :: later } :: after) = front ++ f.display ++ back := by
  obtain ⟨opening, closing, owed⟩ := owedLines_around before after d earlier later
  refine ⟨endedLines opening ++ (d.tag ++ ":     "), "\n" ++ endedLines closing, fun f => ?_⟩
  rw [report_eq_endedLines, owed, endedLines_append, endedLines_cons]
  simp only [String.append_assoc]

/-- How far the texts of two edits tell them apart: by what they put in and by the lines and columns of their ranges.
The names of the range's files are all that a text leaves out. A report says as much of each edit in it, wherever the
edit stands. -/
structure ToldApart (f g : FixIt) : Prop where
  byText : f.display = g.display ↔ f.replacement = g.replacement ∧ FixIt.SamePlaces f.range g.range
  leftOut : f.display = g.display ↔ ∃ first last, g = f.renamed first last
  byReport : ∀ (before after : List Diagnostic) (d : Diagnostic) (earlier later : List FixIt),
    report (before ++ { d with fixits := earlier ++ f :: later } :: after) =
        report (before ++ { d with fixits := earlier ++ g :: later } :: after) ↔
      f.replacement = g.replacement ∧ FixIt.SamePlaces f.range g.range

theorem edit_text_leaves_out_only_files (f g : FixIt) : ToldApart f g := by
  constructor
  case byText => exact FixIt.display_eq_iff
  case leftOut => rw [FixIt.display_eq_iff, FixIt.exists_renamed_iff]
  case byReport =>
    intro before after d earlier later
    obtain ⟨front, back, around⟩ := report_around before after d earlier later
    rw [around f, around g, String.append_left_inj, String.append_right_inj, FixIt.display_eq_iff]

end ClangAccess
