import ClangAccess.Proofs.ArgumentReading
import ClangAccess.Proofs.ParsePrinted

namespace ClangAccess

/-- The bytes of a text are read as that text. -/
theorem Bytes.text?_ofText (s : String) : (Bytes.ofText s).text? = some s := by
  have each : Utf8.Piece.char? ∘ Utf8.Piece.char = fun c => pure c := rfl
  rw [text?, ofText, Utf8.pieces_flatMap, List.mapM_map, each, List.mapM_pure]
  simp

theorem Bytes.mapM_text?_ofText (xs : List String) : (xs.map Bytes.ofText).mapM Bytes.text? = some xs := by
  have each : Bytes.text? ∘ Bytes.ofText = fun s => pure s := funext text?_ofText
  rw [List.mapM_map, each, List.mapM_pure]
  simp

theorem Token.ofArgument_eq_escape {argument : Bytes} :
    Token.ofArgument argument = .escape ↔ argument = Bytes.ofText "--" := by
  have dashes : Bytes.ofText "--" = [dash, dash] := by decide
  rw [dashes]
  constructor
  · intro escape
    match argument with
    | [] => cases escape
    | [first] => simp [ofArgument] at escape
    | first :: second :: [] =>
      by_cases dashed : first = dash ∧ second = dash
      · rw [dashed.1, dashed.2]
      · simp only [ofArgument] at escape
        split at escape <;> simp_all
    | first :: second :: third :: more =>
      simp only [ofArgument] at escape
      repeat' split at escape
      all_goals simp_all
  · rintro rfl
    rfl

namespace Reading

/-- Nothing has been read for clang. -/
structure Unescaped (r : Reading) : Prop where
  clangArgs : r.clangArgs = []
  pending : ∀ values, r.pending ≠ some (.clangArgs values)

variable {a : Addressee} {r s : Reading}

theorem unescaped_stable : Stable Unescaped where
  settles := by
    intro r s settles before
    cases settles with
    | idle => exact before
    | directory | file => exact ⟨before.clangArgs, nofun⟩
    | clangArgs waiting => exact absurd waiting (before.pending _)
  flagged := by
    intro r o s flagged before
    cases flagged with
    | verbose | quiet | once => exact ⟨before.clangArgs, before.pending⟩
  begun before := ⟨before.clangArgs, nofun⟩
  placed before := ⟨before.clangArgs, nofun⟩
  attached _ before := ⟨before.clangArgs, before.pending⟩

theorem Reads.unescaped {given : List Bytes} {found : Option (Level × List Bytes)} (reads : Reads a r given s found)
    (plain : Bytes.ofText "--" ∉ given) (before : r.Unescaped) : s.Unescaped := by
  refine unescaped_stable.reads reads (fun argument within token => ?_) before
  exact absurd (Token.ofArgument_eq_escape.1 token ▸ within) plain

/-- What comes behind the first argument for clang joins it. -/
theorem trailing_all {values : List Bytes} (placed : a.level.hasPositionals = true) (xs : List Bytes)
    (waiting : r.pending = some (.clangArgs values)) :
    xs.foldlM (trailing a) r = .ok { r with pending := some (.clangArgs (values ++ xs)) } := by
  induction xs generalizing r values with
  | nil =>
    rw [List.append_nil, ← waiting]
    rfl
  | cons x xs ih =>
    have first : r.trailing a x = .ok { r with pending := some (.clangArgs (values ++ [x])) } := by
      simp only [trailing, placed, waiting, if_true]
    rw [List.foldlM_cons, Except.bind_eq_ok]
    refine ⟨_, first, ?_⟩
    rw [ih rfl, List.append_assoc]
    rfl

/-- All that comes behind the escape is for clang, and nothing else is changed by it. -/
theorem escaped_finish (parse : a.level = .parse) (before : r.Unescaped) (finished : r.finish a = .ok s)
    (xs : List String) :
    ∃ t, (xs.map Bytes.ofText).foldlM (trailing a) r = .ok t ∧ t.finish a = .ok { s with clangArgs := xs } := by
  obtain ⟨settles, both, filed⟩ := finish_eq_ok.1 finished
  -- an escape with nothing behind it leaves what was pending pending; the first text behind one settles it
  cases xs with
  | nil =>
    refine ⟨r, rfl, ?_⟩
    rw [finished, ← (unescaped_stable.settles settles before).clangArgs]
  | cons x xs =>
    have placed : a.level.hasPositionals = true := by rw [parse]; rfl
    have first : r.trailing a (Bytes.ofText x) = .ok { s with pending := some (.clangArgs [Bytes.ofText x]) } := by
      simp only [trailing, placed, if_true]
      split
      · rename_i waiting
        exact absurd waiting (before.pending _)
      · rw [Except.bind_eq_ok]
        exact ⟨s, settle_eq_ok.2 settles, rfl⟩
    let waiting : Reading := { s with pending := some (.clangArgs ((x :: xs).map Bytes.ofText)) }
    refine ⟨waiting, ?_, finish_eq_ok.2 ⟨?_, both, filed⟩⟩
    · rw [List.map_cons, List.foldlM_cons, Except.bind_eq_ok]
      exact ⟨_, first, @trailing_all a _ [Bytes.ofText x] placed _ rfl⟩
    · have taken := Settles.clangArgs (r := waiting) rfl (Bytes.mapM_text?_ofText (x :: xs))
      rwa [← settles.pending_none] at taken

end Reading

namespace Invocation

open Reading

theorem readCommand_escaped {startedAs : Option String} {given : List Bytes} {inner : Reading}
    (plain : Bytes.ofText "--" ∉ given) (read : readCommand startedAs .parse given = .ok inner) (xs : List String) :
    readCommand startedAs .parse (given ++ Bytes.ofText "--" :: xs.map Bytes.ofText) =
      .ok { inner with clangArgs := xs } := by
  obtain ⟨r, found, reads, finished⟩ := readCommand_eq_ok.1 read
  cases found with
  | some handed => exact nomatch reads.program_of_command
  | none =>
    obtain ⟨t, folded, ended⟩ := escaped_finish rfl (reads.unescaped plain ⟨rfl, nofun⟩) finished xs
    have unescaped : ∀ argument ∈ given, Token.ofArgument argument ≠ .escape := fun argument member escape =>
      plain (Token.ofArgument_eq_escape.1 escape ▸ member)
    have whole := reads.append unescaped (.escape rfl (Token.ofArgument_eq_escape.2 rfl) folded)
    exact readCommand_eq_ok.2 ⟨t, none, whole, ended⟩

theorem ofArguments_escaped {given : List Bytes} {i : Invocation} {request : ParseRequest}
    (plain : Bytes.ofText "--" ∉ given.tail) (accepted : ofArguments given = .ok i)
    (asked : i.action = .parse request) (xs : List String) :
    ofArguments (given ++ Bytes.ofText "--" :: xs.map Bytes.ofText) =
      .ok { i with action := .parse { request with clangArgs := xs } } := by
  obtain ⟨r, command, rest, inner, outer, reads, carried, read, finished, rfl⟩ := ofArguments_eq_ok.1 accepted
  obtain ⟨rfl, file, named, rfl⟩ := commanded_eq_parse.1 asked
  cases given with
  | nil => cases reads
  | cons name given =>
    have within : Bytes.ofText "--" ∉ rest := fun member => plain (reads.command_suffix.subset member)
    refine ofArguments_eq_ok.2 ⟨r, .parse, _, { inner with clangArgs := xs }, outer,
      reads.append_command _, carried, readCommand_escaped within read xs, finished, ?_⟩
    simp only [combine, commanded, named]
    rfl

theorem clangArgs_eq_nil {given : List Bytes} {i : Invocation} {request : ParseRequest}
    (plain : Bytes.ofText "--" ∉ given.tail) (accepted : ofArguments given = .ok i)
    (asked : i.action = .parse request) : request.clangArgs = [] := by
  obtain ⟨_, command, rest, inner, _, reads, _, read, _, rfl⟩ := ofArguments_eq_ok.1 accepted
  obtain ⟨rfl, file, named, rfl⟩ := commanded_eq_parse.1 asked
  obtain ⟨_, _, within, finished⟩ := readCommand_eq_ok.1 read
  have before := within.unescaped (fun member => plain (reads.command_suffix.subset member)) ⟨rfl, nofun⟩
  exact (unescaped_stable.settles (finish_eq_ok.1 finished).1 before).clangArgs

end Invocation

def Event.call? : Event → Option ParseCall
  | .parsed _ call _ => some call
  | _ => none

/-- The requests that were put to libclang. -/
def Process.calls (p : Process) : List ParseCall := p.ledger.toList.filterMap fun e => e.event.call?

theorem Event.call?_eq_none {e : Event} (quiet : e.acquires = false) : e.call? = none := by
  cases e with
  | parsed => cases quiet
  | _ => rfl

theorem Process.calls_append {p q : Process} {acquired rest : List Entry}
    (grown : q.ledger.toList = p.ledger.toList ++ (acquired ++ rest))
    (quiet : ∀ e ∈ rest, e.event.acquires = false) :
    q.calls = p.calls ++ acquired.filterMap fun e => e.event.call? := by
  have none : (rest.filterMap fun e => e.event.call?) = [] :=
    List.filterMap_eq_nil_iff.mpr fun e member => Event.call?_eq_none (quiet e member)
  simp only [calls, grown, List.filterMap_append, none, List.append_nil]

theorem FirstNul.exists_nul {args : List String} {position : Nat} (nul : FirstNul args position) :
    ∃ arg ∈ args, 0 ∈ Bytes.ofText arg := by
  obtain ⟨before, arg, after, head, tail, rfl, _, bytes, _⟩ := nul
  exact ⟨arg, by simp, by simp [bytes]⟩

/-- The way to libclang is clear: the search finds a directory, its library opens and gives an index, and the file
is there. -/
def Invocation.Reaches (i : Invocation) (host : Host) (view : FileView) (file : Path) : Prop :=
  ∃ toolchain library, (i.search host).result = .ok toolchain ∧
    view.isFile (Slot.candidate toolchain.libraryDir) = true ∧ view.isFile file = true ∧
    view.opened (requested view toolchain.libraryDir) = .ok library ∧ library.givesNoIndex = false

/-- A run puts one request to libclang if the way there is clear and no argument holds a zero byte. Otherwise it
puts none. -/
inductive Asks (host : Host) (view : FileView) (i : Invocation) (request : ParseRequest) : List ParseCall → Prop
  | once : i.Reaches host view request.file → (∀ arg ∈ request.clangArgs, 0 ∉ Bytes.ofText arg) →
      Asks host view i request [Session.callFor request.file request.clangArgs request.options]
  | unreached : ¬i.Reaches host view request.file → Asks host view i request []
  | refused {position} : FirstNul request.clangArgs position → Asks host view i request []

namespace Asks

variable {host : Host} {view : FileView} {i : Invocation} {request : ParseRequest} {calls : List ParseCall}

theorem eq_callFor (asks : Asks host view i request calls) :
    ∀ call ∈ calls, call = Session.callFor request.file request.clangArgs request.options := by
  intro call member
  cases asks with
  | once => exact List.mem_singleton.mp member
  | unreached | refused => cases member

theorem of_reaches (asks : Asks host view i request calls) (reaches : i.Reaches host view request.file)
    (clean : ∀ arg ∈ request.clangArgs, 0 ∉ Bytes.ofText arg) :
    calls = [Session.callFor request.file request.clangArgs request.options] := by
  cases asks with
  | once => rfl
  | unreached blocked => exact absurd reaches blocked
  | refused nul =>
    obtain ⟨arg, member, zero⟩ := nul.exists_nul
    exact absurd zero (clean arg member)

theorem of_unreached (asks : Asks host view i request calls) (blocked : ¬i.Reaches host view request.file) :
    calls = [] := by
  cases asks with
  | once reaches => exact absurd reaches blocked
  | unreached | refused => rfl

end Asks

theorem Produced.asks {host : Host} {view : FileView} {i : Invocation} {request : ParseRequest}
    {result : Except ClangError ParsedUnit} {q : Process} (produced : Produced host view i request result q) :
    Asks host view i request q.calls := by
  obtain ⟨e, none, _, rfl⟩ | ⟨toolchain, p, found, ready, ⟨absent, rfl, _⟩ | ⟨present, parsed⟩⟩ := produced.stages
  · refine .unreached ?_
    rintro ⟨_, _, found, _⟩
    exact nomatch found.symm.trans none
  · have calls : q.calls = [] := by rw [Process.calls, ready.ledger]; rfl
    rw [calls]
    refine .unreached ?_
    rintro ⟨_, _, same, there, _⟩
    cases same.symm.trans found
    exact nomatch there.symm.trans absent
  · obtain ⟨result', q', acquired, rest, run, grown, _, _, outcome⟩ := Session.parse_outcome view
      ⟨0, requested view toolchain.libraryDir⟩ request.file request.clangArgs request.options p
    cases run.symm.trans parsed
    rw [ready.opening] at outcome
    have calls : q.calls = acquired.filterMap fun e => e.event.call? := by
      rw [Process.calls_append grown outcome.rest_acquires_nothing, Process.calls, ready.ledger]
      rfl
    rw [calls]
    -- every way out of the parse either put the request or tells what stood in its way
    cases outcome with
    | absent gone =>
      refine .unreached ?_
      rintro ⟨_, _, _, _, there, _⟩
      exact nomatch there.symm.trans gone
    | unopened _ failed =>
      refine .unreached ?_
      rintro ⟨_, _, same, _, _, opened, _⟩
      cases same.symm.trans found
      exact nomatch opened.symm.trans failed
    | nulArgument _ _ nul => exact .refused nul
    | noIndex _ opened _ null =>
      refine .unreached ?_
      rintro ⟨_, _, same, _, _, again, given⟩
      cases same.symm.trans found
      cases again.symm.trans opened
      exact nomatch given.symm.trans null
    | noUnit there opened clean given | failed there opened clean given | parsed there opened clean given =>
      exact .once ⟨toolchain, _, found, present, there, opened, given⟩ clean

theorem ProgramRun.perform_asks (stream : ErrorStream) (host : Host) (view : FileView) {i : Invocation}
    {request : ParseRequest} (asked : i.action = .parse request) :
    Asks host view i request (perform stream host view i).process.calls := by
  obtain ⟨result, q, produced, performed⟩ := perform_parse stream host view asked
  rw [performed]
  cases result with
  | error e => exact produced.asks
  | ok u =>
    obtain ⟨ledger, used, shown, grown, tidy⟩ := showUnit_run stream i.logLevel request.file u q
    have quiet : ∀ e ∈ used ++ released u, e.event.acquires = false := by
      intro e member
      rcases List.mem_append.mp member with early | late
      · exact tidy.acquires_nothing e early
      · exact released_acquires_nothing e late
    have same : Process.calls { q with ledger } = q.calls :=
      (@Process.calls_append q _ [] _ grown quiet).trans (List.append_nil _)
    simp only [shown, same]
    exact produced.asks

/-- A command line with some texts behind an escape. -/
def withClangArgs (given : List Bytes) (xs : List String) : List Bytes :=
  given ++ Bytes.ofText "--" :: xs.map Bytes.ofText

/-- Texts behind an escape are handed to clang as they stand, and nothing else depends on them: the command line is
otherwise understood as it is without them, and libclang is otherwise asked what it is asked without them. -/
structure HandedToClang (given : List Bytes) (xs : List String) (i : Invocation) (request : ParseRequest) : Prop where
  accepted : Invocation.ofArguments (withClangArgs given xs) =
    .ok { i with action := .parse { request with clangArgs := xs } }
  verbatim : ∀ stream host view, ∀ call ∈ (runProgramOn stream host view (withClangArgs given xs)).process.calls,
    call.args = xs ∧ call.options = request.options.bits
  counted : xs.length < 2 ^ 31 → ∀ stream host view,
    ∀ call ∈ (runProgramOn stream host view (withClangArgs given xs)).process.calls, call.argCount.toInt = xs.length
  otherwiseSame : (∀ x ∈ xs, 0 ∉ Bytes.ofText x) → ∀ stream host view,
    (runProgramOn stream host view (withClangArgs given xs)).process.calls =
      (runProgramOn stream host view given).process.calls.map fun call =>
        { call with args := xs, argCount := Int32.ofNat xs.length }

theorem runProgramOn_asks (stream : ErrorStream) (host : Host) (view : FileView) {given : List Bytes} {i : Invocation}
    {request : ParseRequest} (accepted : Invocation.ofArguments given = .ok i) (asked : i.action = .parse request) :
    Asks host view i request (runProgramOn stream host view given).process.calls := by
  rw [runProgramOn_accepted stream host view accepted]
  exact ProgramRun.perform_asks stream host view asked

/-- Whatever stands behind the escape, options and further escapes included, is for clang alone. -/
theorem texts_behind_escape_handed_to_clang (given : List Bytes) (xs : List String) (i : Invocation)
    (request : ParseRequest) (plain : Bytes.ofText "--" ∉ given.tail)
    (accepted : Invocation.ofArguments given = .ok i) (asked : i.action = .parse request) :
    HandedToClang given xs i request := by
  have whole := Invocation.ofArguments_escaped plain accepted asked xs
  have asks : ∀ stream host view, Asks host view { i with action := .parse { request with clangArgs := xs } }
      { request with clangArgs := xs } (runProgramOn stream host view (withClangArgs given xs)).process.calls :=
    fun stream host view => runProgramOn_asks stream host view whole rfl
  constructor
  case accepted => exact whole
  case verbatim =>
    intro stream host view call member
    rw [(asks stream host view).eq_callFor call member]
    exact ⟨rfl, rfl⟩
  case counted =>
    intro few stream host view call member
    rw [(asks stream host view).eq_callFor call member]
    exact (Session.callFor_verbatim few).counted
  case otherwiseSame =>
    intro clean stream host view
    have none := Invocation.clangArgs_eq_nil plain accepted asked
    have unread : ∀ arg ∈ request.clangArgs, 0 ∉ Bytes.ofText arg := none ▸ nofun
    have without := runProgramOn_asks stream host view accepted asked
    by_cases reaches : i.Reaches host view request.file
    · rw [(asks stream host view).of_reaches reaches clean, without.of_reaches reaches unread]
      rfl
    · rw [(asks stream host view).of_unreached reaches, without.of_unreached reaches]
      rfl

theorem quietInvocation_reaches : quietInvocation.Reaches bareHost stockedFiles (.ofText "a") :=
  ⟨⟨.explicit, none, none, .ofText "l", .ofText "l/libclang.so"⟩, roughLibrary, rfl, by decide, by decide, rfl, rfl⟩

/-- Texts that look like options of the program itself. -/
def lookalikes : List String := ["--", "-h", "", "--libclang-dir", "-v"]

theorem lookalikes_handed_to_clang :
    Bytes.ofText "--" ∉ quietWords.tail ∧ Invocation.ofArguments quietWords = .ok quietInvocation ∧
      quietInvocation.action = .parse { file := .ofText "a" } ∧
      HandedToClang quietWords lookalikes quietInvocation { file := .ofText "a" } ∧
      (runProgramOn .plain bareHost stockedFiles (withClangArgs quietWords lookalikes)).process.calls =
        [⟨.ofText "a", lookalikes, 5, 0x41, 0⟩] := by
  have plain : Bytes.ofText "--" ∉ quietWords.tail := by decide
  have accepted : Invocation.ofArguments quietWords = .ok quietInvocation := rfl
  have handed := texts_behind_escape_handed_to_clang quietWords lookalikes quietInvocation
    { file := .ofText "a" } plain accepted rfl
  refine ⟨plain, accepted, rfl, handed, ?_⟩
  have asked : Asks bareHost stockedFiles quietInvocation { file := .ofText "a" } _ :=
    runProgramOn_asks .plain bareHost stockedFiles accepted rfl
  rw [handed.otherwiseSame (by decide), asked.of_reaches quietInvocation_reaches nofun]
  rfl

end ClangAccess
