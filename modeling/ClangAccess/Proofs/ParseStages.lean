import ClangAccess.Proofs.Lifetime
import ClangAccess.Proofs.Opening
import Mathlib.Algebra.Group.Nat.Defs

namespace ClangAccess

theorem nulPosition?_eq_none {s : String} : nulPosition? s = none ↔ 0 ∉ Bytes.ofText s := by
  simp [nulPosition?, List.findIdx?_eq_none_iff, List.forall_mem_ne']

theorem nulPosition?_eq_some {s : String} {position : Nat} (found : nulPosition? s = some position) :
    ∃ head tail, Bytes.ofText s = head ++ 0 :: tail ∧ 0 ∉ head ∧ head.length = position := by
  obtain ⟨bound, zero, first⟩ := List.findIdx?_eq_some_iff_getElem.mp found
  refine ⟨(Bytes.ofText s).take position, (Bytes.ofText s).drop (position + 1), ?_, ?_, ?_⟩
  · rw [← of_decide_eq_true zero, List.getElem_cons_drop, List.take_append_drop]
  · intro early
    obtain ⟨i, lower, equal⟩ := List.mem_take_iff_getElem.mp early
    exact first i (by omega) (by simp [equal])
  · rw [List.length_take]
    omega

/-- Among some arguments, the first that holds a zero byte holds its first one at a position. -/
def FirstNul (args : List String) (position : Nat) : Prop :=
  ∃ before arg after head tail, args = before ++ arg :: after ∧ (∀ a ∈ before, 0 ∉ Bytes.ofText a) ∧
    Bytes.ofText arg = head ++ 0 :: tail ∧ 0 ∉ head ∧ head.length = position

theorem FirstNul.of_findSome {args : List String} {position : Nat}
    (found : args.findSome? nulPosition? = some position) : FirstNul args position := by
  obtain ⟨before, arg, after, split, here, earlier⟩ := List.findSome?_eq_some_iff.mp found
  obtain ⟨head, tail, bytes, early, length⟩ := nulPosition?_eq_some here
  exact ⟨before, arg, after, head, tail, split, fun a member => nulPosition?_eq_none.mp (earlier a member),
    bytes, early, length⟩

/-- Whether an event acquires something for long, or asks to. -/
def Event.acquires : Event → Bool
  | .indexCreated .. | .parsed .. => true
  | _ => false

/-- A request hands everything on as it came: the path, the arguments in their order and how many they are,
and every bit of the options. -/
structure ParseCall.Verbatim (call : ParseCall) (file : Path) (args : List String) (options : ParseOptions) :
    Prop where
  path : call.file = file
  inOrder : call.args = args
  counted : call.argCount.toInt = args.length
  everyBit : call.options = options.bits
  nothingUnsaved : call.unsavedFiles = 0

theorem ParseCall.Verbatim.unique {call other : ParseCall} {file : Path} {args : List String}
    {options : ParseOptions} (one : call.Verbatim file args options) (two : other.Verbatim file args options) :
    call = other := by
  obtain ⟨path, inOrder, counted, everyBit, nothingUnsaved⟩ := one
  obtain ⟨path', inOrder', counted', everyBit', nothingUnsaved'⟩ := two
  have sameCount := Int32.toInt_inj.mp (counted.trans counted'.symm)
  cases call
  cases other
  simp_all

/-- How a parse comes out, by the first condition that applies: its result, what it acquires, and what it
enters after that. The handles get the numbers from `next` on. -/
inductive ParseOutcome (view : FileView) (backend : Backend) (file : Path) (args : List String) (call : ParseCall)
    (opening : Except String Library) (next : Nat) :
    Except ClangError ParsedUnit → (acquired rest : List Entry) → Prop
  | absent : view.isFile file = false →
      ParseOutcome view backend file args call opening next (.error (.fileNotFound file)) [] []
  | unopened {reason} : view.isFile file = true → opening = .error reason →
      ParseOutcome view backend file args call opening next (.error (.libraryLoad backend.libraryFile reason)) [] []
  | nulArgument {library position} : view.isFile file = true → opening = .ok library → FirstNul args position →
      ParseOutcome view backend file args call opening next
        (.error (.parseFailed file
          s!"argument contains a NUL byte: nul byte found in provided data at position: {position}" ""))
        [] []
  | noIndex {library} : view.isFile file = true → opening = .ok library → (∀ arg ∈ args, 0 ∉ Bytes.ofText arg) →
      library.givesNoIndex = true →
      ParseOutcome view backend file args call opening next
        (.error (.parseFailed file "clang_createIndex returned null" ""))
        [⟨library.number, .indexCreated 0 0 none⟩] []
  | noUnit {library code} : view.isFile file = true → opening = .ok library →
      (∀ arg ∈ args, 0 ∉ Bytes.ofText arg) → library.givesNoIndex = false → view.reply file = ⟨code, none⟩ →
      ParseOutcome view backend file args call opening next
        (.error (.parseFailed file s!"libclang returned {replyCodeName code}" ""))
        [⟨library.number, .indexCreated 0 0 (some next)⟩, ⟨library.number, .parsed next call none⟩]
        [⟨library.number, .indexDisposed next⟩]
  | failed {library code content copied} : view.isFile file = true → opening = .ok library →
      (∀ arg ∈ args, 0 ∉ Bytes.ofText arg) → library.givesNoIndex = false →
      view.reply file = ⟨code, some content⟩ → code ≠ 0 → Tidy library.number (next + 1) (next + 2) copied →
      ParseOutcome view backend file args call opening next
        (.error (.parseFailed file s!"libclang returned {replyCodeName code}"
          (report (content.diagnostics.map ForeignDiagnostic.decoded))))
        [⟨library.number, .indexCreated 0 0 (some next)⟩, ⟨library.number, .parsed next call (some (next + 1))⟩]
        (copied ++ [⟨library.number, .unitDisposed (next + 1)⟩, ⟨library.number, .indexDisposed next⟩])
  | parsed {library content copied} : view.isFile file = true → opening = .ok library →
      (∀ arg ∈ args, 0 ∉ Bytes.ofText arg) → library.givesNoIndex = false →
      view.reply file = ⟨0, some content⟩ → Tidy library.number (next + 1) (next + 2) copied →
      ParseOutcome view backend file args call opening next
        (.ok
          { library, index := next, unit := next + 1, rootNode := content.root, file,
            diagnostics := content.diagnostics.map ForeignDiagnostic.decoded })
        [⟨library.number, .indexCreated 0 0 (some next)⟩, ⟨library.number, .parsed next call (some (next + 1))⟩]
        copied

theorem Tidy.acquires_nothing {library unit first : Nat} {entries : List Entry}
    (tidy : Tidy library unit first entries) : ∀ e ∈ entries, e.event.acquires = false := by
  intro e member
  rcases tidy.mem member with rfl | ⟨_, _, _, _, rfl | rfl⟩ <;> rfl

/-- What a parse enters after it has what it needs acquires nothing more. -/
theorem ParseOutcome.rest_acquires_nothing {view : FileView} {backend : Backend} {file : Path}
    {args : List String} {call : ParseCall} {opening : Except String Library} {next : Nat}
    {result : Except ClangError ParsedUnit} {acquired rest : List Entry}
    (outcome : ParseOutcome view backend file args call opening next result acquired rest) :
    ∀ e ∈ rest, e.event.acquires = false := by
  cases outcome with
  | absent | unopened | nulArgument | noIndex => simp
  | noUnit => simp [Event.acquires]
  | failed _ _ _ _ _ _ tidy =>
    intro e member
    simp only [List.mem_append, List.mem_cons, List.not_mem_nil, or_false] at member
    rcases member with early | rfl | rfl
    · exact tidy.acquires_nothing e early
    · rfl
    · rfl
  | parsed _ _ _ _ _ tidy => exact tidy.acquires_nothing

namespace Session

variable {view : FileView} {backend : Backend} {file : Path} {args : List String} {options : ParseOptions}
  {p : Process}

/-- The request that a parse puts to libclang. -/
def callFor (file : Path) (args : List String) (options : ParseOptions) : ParseCall :=
  { file, args, argCount := Int32.ofNat args.length, options := options.bits, unsavedFiles := 0 }

theorem callFor_verbatim (few : args.length < 2 ^ 31) : (callFor file args options).Verbatim file args options where
  path := rfl
  inOrder := rfl
  counted := Int32.toInt_ofNat_of_lt few
  everyBit := rfl
  nothingUnsaved := rfl

theorem refuseNul_found {position : Nat} (clean : file.bytes.contains 0 = false)
    (found : args.findSome? nulPosition? = some position) :
    (refuseNul file args).run.run p = (.error (.parseFailed file
      s!"argument contains a NUL byte: nul byte found in provided data at position: {position}" ""), p) := by
  simp only [refuseNul, clean, found]
  rfl

theorem refuseNul_none (clean : file.bytes.contains 0 = false) (none : args.findSome? nulPosition? = none) :
    (refuseNul file args).run.run p = (.ok (), p) := by
  simp only [refuseNul, clean, none]
  rfl

theorem parse_absent (absent : view.isFile file = false) :
    (parse view backend file args options).run.run p = (.error (.fileNotFound file), p) := by
  simp only [parse, absent]
  rfl

/-- A file that is there has the library opened, and all else depends on what comes of that. -/
theorem parse_present (args : List String) (options : ParseOptions) (present : view.isFile file = true) :
    ∃ q, q.outcome? backend = some (p.opening view backend) ∧ q.ledger = p.ledger ∧
      q.openings = p.openingsWith view backend ∧
      (∀ reason, p.opening view backend = .error reason →
        (parse view backend file args options).run.run p =
          (.error (.libraryLoad backend.libraryFile reason), q)) ∧
      ∀ library, p.opening view backend = .ok library →
        (parse view backend file args options).run.run p =
          (do refuseNul file args; request view library (callFor file args options)).run.run q := by
  let told := p.tell [.debug
    s!"parse_file: {file.display}: args={bracketed (args.map quoted)} options={options.debugText}"]
  obtain ⟨q, run, remembered, ledger, openings⟩ := backend.open_run view told
  rw [p.opening_tell] at run remembered
  rw [p.openingsWith_tell] at openings
  refine ⟨q, remembered, ledger, openings, fun reason failed => ?_, fun library opened => ?_⟩
  · rw [failed] at run
    simp only [parse, present, if_true]
    exact (Work.bind_run (q := told) rfl).trans (Work.bind_run_error run)
  · rw [opened] at run
    simp only [parse, present, if_true]
    exact (Work.bind_run (q := told) rfl).trans (Work.bind_run run)

theorem request_outcome (backend : Backend) (options : ParseOptions) {library : Library} {next : Nat}
    (length : p.ledger.toList.length = next) (present : view.isFile file = true)
    (clean : ∀ arg ∈ args, 0 ∉ Bytes.ofText arg) :
    ∃ result q acquired rest,
      (request view library (callFor file args options)).run.run p = (result, q) ∧
        q.openings = p.openings ∧ q.ledger.toList = p.ledger.toList ++ (acquired ++ rest) ∧
        ParseOutcome view backend file args (callFor file args options) (.ok library) next result acquired rest := by
  subst length
  let call := callFor file args options
  cases given : library.givesNoIndex with
  | true =>
    obtain ⟨ledger, log, _, run, grown, rfl⟩ := request_null (p := p) view call given
    exact ⟨_, _, _, [], run, rfl, grown, .noIndex present rfl clean given⟩
  | false =>
    cases reply : view.reply file with
    | mk code unit =>
      cases unit with
      | none =>
        obtain ⟨ledger, log, _, run, grown, rfl⟩ := request_noUnit (p := p) call given reply
        exact ⟨_, _, [_, _], [_], run, rfl, grown, .noUnit present rfl clean given reply⟩
      | some content =>
        by_cases success : code = 0
        · subst success
          obtain ⟨ledger, log, _, run, grown, copied, tidy, rfl⟩ := request_ok (p := p) call given reply
          exact ⟨_, _, _, _, run, rfl, grown, .parsed present rfl clean given reply tidy⟩
        · obtain ⟨ledger, log, _, run, grown, copied, tidy, rfl⟩ := request_failed (p := p) call given reply success
          rw [List.append_assoc] at grown
          exact ⟨_, _, _, _, run, rfl, grown, .failed present rfl clean given reply success tidy⟩

/-- Every parse comes out in one of the ways there are. A file that is not there leaves the process as it was,
and for one that is there it is remembered what came of opening the library. -/
theorem parse_outcome (view : FileView) (backend : Backend) (file : Path) (args : List String)
    (options : ParseOptions) (p : Process) :
    ∃ result q acquired rest, (parse view backend file args options).run.run p = (result, q) ∧
      q.ledger.toList = p.ledger.toList ++ (acquired ++ rest) ∧
      (view.isFile file = false → q = p) ∧
      (view.isFile file = true → q.outcome? backend = some (p.opening view backend)) ∧
      ParseOutcome view backend file args (callFor file args options) (p.opening view backend)
        p.ledger.toList.length result acquired rest := by
  cases present : view.isFile file with
  | false =>
    exact ⟨_, p, [], [], parse_absent present, by simp, fun _ => rfl, nofun, .absent present⟩
  | true =>
    obtain ⟨q, remembered, ledger, _, unopened, opened⟩ := parse_present args options present
    cases opening : p.opening view backend with
    | error reason =>
      rw [opening] at remembered
      exact ⟨_, q, [], [], unopened reason opening, by simp [ledger], nofun, fun _ => remembered,
        .unopened present rfl⟩
    | ok library =>
      rw [opening] at remembered
      have run := opened library opening
      -- a path with a zero byte leads to no file, so only an argument can be refused here
      have whole := view.nulFree file present
      cases found : args.findSome? nulPosition? with
      | some position =>
        refine ⟨_, q, [], [], ?_, by simp [ledger], nofun, fun _ => remembered,
          .nulArgument present rfl (.of_findSome found)⟩
        rw [run]
        exact Work.bind_run_error (refuseNul_found whole found)
      | none =>
        have clean : ∀ arg ∈ args, 0 ∉ Bytes.ofText arg := fun arg member =>
          nulPosition?_eq_none.mp (List.findSome?_eq_none_iff.mp found arg member)
        obtain ⟨result, r, acquired, rest, requested, openings, grown, outcome⟩ :=
          request_outcome backend options (congrArg (·.toList.length) ledger) present clean
        refine ⟨result, r, acquired, rest, ?_, ledger ▸ grown, nofun, fun _ => ?_, outcome⟩
        · rw [run]
          exact (Work.bind_run (refuseNul_none whole found)).trans requested
        · rw [← remembered]
          simp only [Process.outcome?, openings]

end Session

/-- A parse is decided by the first condition that applies, and what reaches libclang is what came in. -/
theorem parse_decided_by_first_failing_stage (view : FileView) (backend : Backend) (file : Path)
    (args : List String) (options : ParseOptions) (p : Process) (few : args.length < 2 ^ 31) :
    ∃ call result q acquired rest, call.Verbatim file args options ∧
      (Session.parse view backend file args options).run.run p = (result, q) ∧
      q.ledger.toList = p.ledger.toList ++ (acquired ++ rest) ∧
      (view.isFile file = false → q = p) ∧
      (view.isFile file = true → q.outcome? backend = some (p.opening view backend)) ∧
      ParseOutcome view backend file args call (p.opening view backend) p.ledger.toList.length result
        acquired rest ∧
      ∀ e ∈ rest, e.event.acquires = false := by
  obtain ⟨result, q, acquired, rest, run, grown, untouched, remembered, outcome⟩ :=
    Session.parse_outcome view backend file args options p
  exact ⟨_, result, q, acquired, rest, Session.callFor_verbatim few, run, grown, untouched, remembered, outcome,
    outcome.rest_acquires_nothing⟩

/-- A library that has a name for no kind of node. -/
def nameless : Library := ⟨0, false, fun _ => none⟩

/-- One file to parse, and one library that parses it with an error. -/
def oneFile : FileView where
  isFile path := path = ⟨[0x61]⟩
  canonical? := some
  library _ := .ok ⟨0, [], false, nameless.kindName⟩
  missingText _ _ := ""
  reply _ := ⟨0, some ⟨[⟨3, none, none, []⟩], .mk 350 none none false []⟩⟩
  nulFree := by
    intro path file
    rw [of_decide_eq_true file]
    rfl

theorem one_file_parsed_as_asked :
    ["-DA"].length < 2 ^ 31 ∧
      ∃ q, (Session.parse oneFile ⟨0, ⟨[0x62]⟩⟩ ⟨[0x61]⟩ ["-DA"] ⟨0x80000001⟩).run.run {} =
          (.ok ⟨nameless, 0, 1, .mk 350 none none false [], ⟨[0x61]⟩, [⟨.error, "", none, []⟩]⟩, q) ∧
        q.ledger.toList.filter (fun e => e.event.acquires) =
          [⟨0, .indexCreated 0 0 (some 0)⟩, ⟨0, .parsed 0 ⟨⟨[0x61]⟩, ["-DA"], 1, 0x80000001, 0⟩ (some 1)⟩] := by
  have few : ["-DA"].length < 2 ^ 31 := by decide
  obtain ⟨call, result, q, acquired, rest, verbatim, run, grown, _, _, outcome, nothing⟩ :=
    parse_decided_by_first_failing_stage oneFile ⟨0, ⟨[0x62]⟩⟩ ⟨[0x61]⟩ ["-DA"] ⟨0x80000001⟩ {} few
  have opened : Process.opening {} oneFile ⟨0, ⟨[0x62]⟩⟩ = .ok nameless := rfl
  rw [opened] at outcome
  have clean : 0 ∉ Bytes.ofText "-DA" := by decide
  cases outcome with
  | absent gone => exact absurd gone (by decide)
  | unopened _ failed => exact nomatch failed
  | nulArgument _ _ nul =>
    obtain ⟨before, arg, after, head, tail, split, _, bytes, _⟩ := nul
    have member : arg ∈ ["-DA"] := by simp [split]
    rw [List.mem_singleton.mp member] at bytes
    exact absurd (by simp [bytes]) clean
  | noIndex _ library _ null =>
    cases library
    exact absurd null (by decide)
  | noUnit _ _ _ _ reply => exact absurd (congrArg ForeignReply.unit reply) nofun
  | failed _ _ _ _ reply failure => exact absurd (congrArg ForeignReply.code reply).symm failure
  | parsed _ library _ _ reply _ =>
    cases library
    cases reply
    refine ⟨few, q, run, ?_⟩
    rw [grown]
    have silent : rest.filter (fun e => e.event.acquires) = [] := by
      simpa [List.filter_eq_nil_iff] using nothing
    rw [verbatim.unique (Session.callFor_verbatim few)]
    simp only [List.filter_append, silent]
    rfl

end ClangAccess
