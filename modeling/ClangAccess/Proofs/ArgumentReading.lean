import ClangAccess.CommandLine.Invocation

namespace ClangAccess

theorem Except.bind_eq_ok {ε α β : Type} {first : Except ε α} {next : α → Except ε β} {b : β} :
    (first >>= next) = .ok b ↔ ∃ a, first = .ok a ∧ next a = .ok b := by
  cases first with
  | error e => simp [bind, Except.bind]
  | ok a => simp [bind, Except.bind]

namespace Reading

/-- What is pending is checked and put in its place. -/
inductive Settles : Reading → Reading → Prop
  | idle {r} : r.pending = none → Settles r r
  | directory {r value} : r.pending = some (.libclangDir (some value)) → r.has .libclangDir = false → value ≠ [] →
      Settles r { r with pending := none, given := r.given ++ [.libclangDir], libclangDir := some ⟨value⟩ }
  | file {r value} : r.pending = some (.file value) → value ≠ [] →
      Settles r { r with pending := none, file := some ⟨value⟩ }
  | clangArgs {r values texts} : r.pending = some (.clangArgs values) → values.mapM Bytes.text? = some texts →
      Settles r { r with pending := none, clangArgs := texts }

/-- A flag is noted. One that is counted moves to its last place. -/
inductive Flagged : Reading → Opt → Reading → Prop
  | verbose {r} :
      Flagged r .verbose { r with given := r.given.erase .verbose ++ [.verbose], verbose := count r.verbose }
  | quiet {r} : Flagged r .quiet { r with given := r.given.erase .quiet ++ [.quiet], quiet := count r.quiet }
  | once {r o} : o ≠ .help → o ≠ .version → o ≠ .verbose → o ≠ .quiet → r.has o = false →
      Flagged r o { r with given := r.given ++ [o] }

/-- The flags of a cluster are noted one after the other. -/
inductive FlaggedAll (a : Addressee) : Reading → List Utf8.Piece → Reading → Prop
  | nil {r} : FlaggedAll a r [] r
  | cons {r s t u c o rest} : a.level.ofShort? c = some o → Settles r s → Flagged s o t → FlaggedAll a t rest u →
      FlaggedAll a r (.char c :: rest) u

/-- One argument before the escape is taken in. -/
inductive Takes (a : Addressee) : Reading → Bytes → Reading → Prop
  | flag {r s t argument name o} : Token.ofArgument argument = .long name none →
      name.text?.bind a.level.ofLong? = some o → o ≠ .libclangDir → Settles r s → Flagged s o t → Takes a r argument t
  | option {r s argument name} : Token.ofArgument argument = .long name none →
      name.text?.bind a.level.ofLong? = some .libclangDir → Settles r s →
      Takes a r argument { s with pending := some (.libclangDir none) }
  | attached {r s argument name value} : Token.ofArgument argument = .long name (some value) →
      name.text?.bind a.level.ofLong? = some .libclangDir → Settles r s → s.has .libclangDir = false → value ≠ [] →
      Takes a r argument { s with given := s.given ++ [.libclangDir], libclangDir := some ⟨value⟩ }
  | cluster {r s argument flags} : Token.ofArgument argument = .cluster flags →
      FlaggedAll a r (Utf8.pieces flags) s → Takes a r argument s
  | value {r argument} : Token.ofArgument argument = .plain → r.awaiting = true →
      Takes a r argument { r with pending := some (.libclangDir (some argument)) }
  | file {r s argument} : Token.ofArgument argument = .plain → r.awaiting = false →
      a.level.hasPositionals = true → r.hasFile = false → Settles r s →
      Takes a r argument { s with pending := some (.file argument) }

/-- The command that an argument names where the program may hand over to one. -/
def commandAt (a : Addressee) (r : Reading) (argument : Bytes) : Option Level :=
  if a.level = .program && !r.awaiting then Level.command? argument else none

/-- The arguments of a level are read up to a command, an escape or the end. -/
inductive Reads (a : Addressee) : Reading → List Bytes → Reading → Option (Level × List Bytes) → Prop
  | done {r} : Reads a r [] r none
  | command {r argument rest command} : commandAt a r argument = some command →
      Reads a r (argument :: rest) r (some (command, rest))
  | escape {r s argument rest} : commandAt a r argument = none → Token.ofArgument argument = .escape →
      rest.foldlM (trailing a) r = .ok s → Reads a r (argument :: rest) s none
  | take {r s t argument rest found} : commandAt a r argument = none → Takes a r argument s → Reads a s rest t found →
      Reads a r (argument :: rest) t found

/-- A property of readings that no step before the escape takes away. -/
structure Stable (P : Reading → Prop) : Prop where
  settles : ∀ {r s}, Settles r s → P r → P s
  flagged : ∀ {r o s}, Flagged r o s → P r → P s
  begun : ∀ {r value}, P r → P { r with pending := some (.libclangDir value) }
  placed : ∀ {r file}, P r → P { r with pending := some (.file file) }
  attached : ∀ {r value}, value ≠ [] → P r →
    P { r with given := r.given ++ [.libclangDir], libclangDir := some ⟨value⟩ }

variable {a : Addressee} {r s t : Reading} {o : Opt} {value : Bytes}

theorem setLibclangDir_eq_ok : r.setLibclangDir a value = .ok s ↔
    r.has .libclangDir = false ∧ value ≠ [] ∧
      s = { r with given := r.given ++ [.libclangDir], libclangDir := some ⟨value⟩ } := by
  unfold setLibclangDir refuse missingValue
  cases r.has .libclangDir with
  | true => simp
  | false =>
    cases value with
    | nil => simp
    | cons => simp [eq_comm]

theorem settle_eq_ok : r.settle a = .ok s ↔ Settles r s := by
  constructor
  · intro settled
    unfold settle missingValue refuse at settled
    cases waiting : r.pending with
    | none =>
      obtain rfl : r = s := by simpa [waiting] using settled
      exact .idle waiting
    | some thing =>
      match thing with
      | .libclangDir none => simp [waiting] at settled
      | .libclangDir (some value) =>
        obtain ⟨fresh, named, rfl⟩ := setLibclangDir_eq_ok.1 (by simpa only [waiting] using settled)
        exact .directory waiting fresh named
      | .file value =>
        cases value with
        | nil => simp [waiting] at settled
        | cons first rest =>
          obtain rfl : { r with pending := none, file := some ⟨first :: rest⟩ } = s := by
            simpa [waiting] using settled
          exact .file waiting (by simp)
      | .clangArgs values =>
        cases read : values.mapM Bytes.text? with
        | none => simp [waiting, read] at settled
        | some texts =>
          obtain rfl : { r with pending := none, clangArgs := texts } = s := by
            simpa [waiting, read] using settled
          exact .clangArgs waiting read
  · intro settles
    unfold settle
    cases settles with
    | idle waiting => simp [waiting]
    | directory waiting fresh named =>
      simp only [waiting]
      exact setLibclangDir_eq_ok.2 ⟨fresh, named, rfl⟩
    | file waiting named => simp [waiting, named]
    | clangArgs waiting read => simp [waiting, read]

theorem flag_eq_ok : r.flag a o = .ok t ↔ ∃ s, Settles r s ∧ Flagged s o t := by
  unfold flag
  simp only [Except.bind_eq_ok, settle_eq_ok]
  refine exists_congr fun s => and_congr_right fun _ => ?_
  constructor
  · intro noted
    split at noted
    · cases noted
    · cases noted
    · cases noted
      exact .verbose
    · cases noted
      exact .quiet
    · split at noted
      · cases noted
      · rename_i fresh
        cases noted
        exact .once ‹_› ‹_› ‹_› ‹_› (by simpa using fresh)
  · intro noted
    cases noted with
    | verbose => rfl
    | quiet => rfl
    | once notHelp notVersion notVerbose notQuiet fresh =>
      cases o with
      | help | version | verbose | quiet => contradiction
      | json | incomplete | keepFunctionBodies | noDetailedRecords | libclangDir => simp [fresh, pure, Except.pure]

theorem cluster_eq_ok {pieces : List Utf8.Piece} : r.cluster a pieces = .ok s ↔ FlaggedAll a r pieces s := by
  constructor
  · intro noted
    induction pieces generalizing r with
    | nil =>
      cases noted
      exact .nil
    | cons piece rest ih =>
      cases piece with
      | broken bytes => cases noted
      | char c =>
        simp only [cluster] at noted
        cases known : a.level.ofShort? c with
        | none => simp [known] at noted
        | some o =>
          simp only [known, Except.bind_eq_ok, flag_eq_ok] at noted
          obtain ⟨t, ⟨u, settles, flagged⟩, others⟩ := noted
          exact .cons known settles flagged (ih others)
  · intro flags
    induction flags with
    | nil => rfl
    | cons known settles flagged _ ih =>
      simp only [cluster, known, Except.bind_eq_ok, flag_eq_ok]
      exact ⟨_, ⟨_, settles, flagged⟩, ih⟩

theorem long_eq_ok {name argument : Bytes} {attached : Option Bytes} {rest : List Bytes}
    (token : Token.ofArgument argument = .long name attached) :
    r.long a name attached rest = .ok s ↔ Takes a r argument s := by
  constructor
  · intro taken
    simp only [long] at taken
    split at taken
    · cases taken
    · rename_i known
      obtain ⟨t, settles, rfl⟩ : ∃ t, Settles r t ∧ { t with pending := some (.libclangDir none) } = s := by
        simpa [Except.bind_eq_ok, settle_eq_ok, pure, Except.pure] using taken
      exact .option token known settles
    · rename_i known
      simp only [Except.bind_eq_ok, settle_eq_ok, setLibclangDir_eq_ok] at taken
      obtain ⟨t, settles, fresh, named, rfl⟩ := taken
      exact .attached token known settles fresh named
    · rename_i other known
      obtain ⟨t, settles, flagged⟩ := flag_eq_ok.1 taken
      exact .flag token known other settles flagged
    · cases taken
  · intro takes
    cases takes with
    | flag here known other settles flagged =>
      cases here.symm.trans token
      simp only [long, known, flag_eq_ok]
      exact ⟨_, settles, flagged⟩
    | option here known settles =>
      cases here.symm.trans token
      simp only [long, known, Except.bind_eq_ok, settle_eq_ok]
      exact ⟨_, settles, rfl⟩
    | attached here known settles fresh named =>
      cases here.symm.trans token
      simp only [long, known, Except.bind_eq_ok, settle_eq_ok, setLibclangDir_eq_ok]
      exact ⟨_, settles, fresh, named, rfl⟩
    | cluster here | value here | file here => cases here.symm.trans token

theorem place_eq_ok {argument : Bytes} : r.place a argument = .ok t ↔
    a.level.hasPositionals = true ∧ r.hasFile = false ∧
      ∃ s, Settles r s ∧ { s with pending := some (.file argument) } = t := by
  unfold place
  by_cases placed : a.level.hasPositionals = true ∧ r.hasFile = false
  · simp [placed.1, placed.2, Except.bind_eq_ok, settle_eq_ok, pure, Except.pure]
  · simp only [← and_assoc, placed, false_and, iff_false]
    rw [if_neg (by simpa using placed)]
    simp

theorem arguments_eq_ok {given : List Bytes} {found : Option (Level × List Bytes)} :
    r.arguments a given = .ok (s, found) ↔ Reads a r given s found := by
  constructor
  · intro read
    induction given generalizing r with
    | nil =>
      cases read
      exact .done
    | cons argument rest ih =>
      simp only [arguments] at read
      split at read
      · rename_i named
        cases read
        exact .command named
      · rename_i unnamed
        cases token : Token.ofArgument argument with
        | escape =>
          simp only [token, Except.bind_eq_ok] at read
          obtain ⟨t, folded, same⟩ := read
          cases same
          exact .escape unnamed token folded
        | long name attached =>
          simp only [token, Except.bind_eq_ok, long_eq_ok token] at read
          obtain ⟨t, takes, later⟩ := read
          exact .take unnamed takes (ih later)
        | cluster flags =>
          simp only [token, Except.bind_eq_ok, cluster_eq_ok] at read
          obtain ⟨t, flags, later⟩ := read
          exact .take unnamed (.cluster token flags) (ih later)
        | plain =>
          simp only [token] at read
          split at read
          · rename_i waiting
            exact .take unnamed (.value token waiting) (ih read)
          · rename_i idle
            simp only [Except.bind_eq_ok, place_eq_ok] at read
            obtain ⟨_, ⟨positional, free, t, settles, rfl⟩, later⟩ := read
            exact .take unnamed (.file token (by simpa using idle) positional free settles) (ih later)
  · intro reads
    induction reads with
    | done => rfl
    | command named =>
      rw [commandAt] at named
      simp only [arguments, named]
    | escape unnamed token folded =>
      rw [commandAt] at unnamed
      simp only [arguments, unnamed, token, folded]
      rfl
    | @take r s t argument rest found unnamed takes _ ih =>
      rw [commandAt] at unnamed
      simp only [arguments, unnamed]
      cases takes with
      | flag token known other settles flagged =>
        simp only [token, Except.bind_eq_ok, long_eq_ok token]
        exact ⟨_, .flag token known other settles flagged, ih⟩
      | option token known settles =>
        simp only [token, Except.bind_eq_ok, long_eq_ok token]
        exact ⟨_, .option token known settles, ih⟩
      | attached token known settles fresh named =>
        simp only [token, Except.bind_eq_ok, long_eq_ok token]
        exact ⟨_, .attached token known settles fresh named, ih⟩
      | cluster token flags =>
        simp only [token, Except.bind_eq_ok, cluster_eq_ok]
        exact ⟨_, flags, ih⟩
      | value token waiting => simpa only [token, waiting, if_true] using ih
      | file token idle positional free settles =>
        simp only [token, idle, Bool.false_eq_true, if_false, Except.bind_eq_ok, place_eq_ok]
        exact ⟨_, ⟨positional, free, _, settles, rfl⟩, ih⟩

/-- What one level reads goes on with more arguments, as long as nothing before them ends the options. -/
theorem Reads.append {given more : List Bytes} {found : Option (Level × List Bytes)} (reads : Reads a r given s none)
    (unescaped : ∀ argument ∈ given, Token.ofArgument argument ≠ .escape) (later : Reads a s more t found) :
    Reads a r (given ++ more) t found := by
  generalize ended : (none : Option (Level × List Bytes)) = nothing at reads
  induction reads with
  -- only the end is left: a command would have been found, and an escape is ruled out
  | done => exact later
  | command => cases ended
  | escape _ token => exact absurd token (unescaped _ (by simp))
  | take unnamed takes _ ih =>
    exact .take unnamed takes (ih (fun argument within => unescaped argument (by simp [within])) later ended)

/-- More arguments behind a command are the command's. -/
theorem Reads.append_command {given rest : List Bytes} {command : Level}
    (reads : Reads a r given s (some (command, rest))) (more : List Bytes) :
    Reads a r (given ++ more) s (some (command, rest ++ more)) := by
  generalize handed : some (command, rest) = found at reads
  induction reads with
  | done | escape => cases handed
  | command named =>
    cases handed
    exact .command named
  | take unnamed takes _ ih => exact .take unnamed takes (ih handed)

theorem Reads.command_suffix {given rest : List Bytes} {command : Level}
    (reads : Reads a r given s (some (command, rest))) : rest <:+ given := by
  generalize handed : some (command, rest) = found at reads
  induction reads with
  | done | escape => cases handed
  | command =>
    cases handed
    exact List.suffix_cons ..
  | take _ _ _ ih => exact (ih handed).trans (List.suffix_cons ..)

theorem Reads.program_of_command {given rest : List Bytes} {command : Level}
    (reads : Reads a r given s (some (command, rest))) : a.level = .program := by
  generalize handed : some (command, rest) = found at reads
  induction reads with
  | done | escape => cases handed
  | command named =>
    by_cases program : a.level = .program
    · exact program
    · simp [commandAt, program] at named
  | take _ _ _ ih => exact ih handed

namespace Stable

variable {P : Reading → Prop}

theorem flaggedAll {pieces : List Utf8.Piece} (stable : Stable P) (flags : FlaggedAll a r pieces s) (before : P r) :
    P s := by
  induction flags with
  | nil => exact before
  | cons _ settles flagged _ ih => exact ih (stable.flagged flagged (stable.settles settles before))

theorem takes {argument : Bytes} (stable : Stable P) (takes : Takes a r argument s) (before : P r) : P s := by
  cases takes with
  | flag _ _ _ settles flagged => exact stable.flagged flagged (stable.settles settles before)
  | option _ _ settles => exact stable.begun (stable.settles settles before)
  | attached _ _ settles _ filled => exact stable.attached filled (stable.settles settles before)
  | cluster _ flags => exact stable.flaggedAll flags before
  | value => exact stable.begun before
  | file _ _ _ _ settles => exact stable.placed (stable.settles settles before)

/-- What is stable holds after a whole level, if what stands behind an escape does not take it away either. -/
theorem reads {given : List Bytes} {found : Option (Level × List Bytes)} (stable : Stable P)
    (reads : Reads a r given s found)
    (escaped : ∀ argument ∈ given, Token.ofArgument argument = .escape → ∀ {r s} {more : List Bytes},
      more.foldlM (trailing a) r = .ok s → P r → P s) (before : P r) : P s := by
  induction reads with
  | done | command => exact before
  | escape _ token folded => exact escaped _ (List.mem_cons_self ..) token folded before
  | take _ takes _ ih =>
    exact ih (fun argument within => escaped argument (List.mem_cons_of_mem _ within)) (stable.takes takes before)

end Stable

theorem Settles.pending_none (settles : Settles r s) : s.pending = none := by
  cases settles with
  | idle waiting => exact waiting
  | directory | file | clangArgs => rfl

theorem finish_eq_ok : r.finish a = .ok s ↔
    Settles r s ∧ s.exclusion? = none ∧ (a.level = .parse → s.file.isSome = true) := by
  unfold finish
  simp only [Except.bind_eq_ok, settle_eq_ok]
  constructor
  · rintro ⟨t, settles, checked⟩
    split at checked
    · cases checked
    · rename_i both
      split at checked
      · cases checked
      · rename_i filed
        cases checked
        exact ⟨settles, both, fun level => by simpa [level, Option.isSome_iff_ne_none] using filed⟩
  · rintro ⟨settles, both, filed⟩
    refine ⟨s, settles, ?_⟩
    simp only [both]
    rw [if_neg]
    · rfl
    · simpa [Option.isSome_iff_ne_none] using filed

end Reading

namespace Invocation

open Reading

theorem readCommand_eq_ok {startedAs : Option String} {command : Level} {given : List Bytes} {inner : Reading} :
    readCommand startedAs command given = .ok inner ↔
      ∃ r found, Reads ⟨command, startedAs⟩ {} given r found ∧ r.finish ⟨command, startedAs⟩ = .ok inner := by
  simp only [readCommand, Except.bind_eq_ok, Prod.exists, arguments_eq_ok]

/-- A command line that is understood names a command other than `help`, after what is said to the program and
before what is said to the command. -/
theorem ofArguments_eq_ok {given : List Bytes} {i : Invocation} : ofArguments given = .ok i ↔
    ∃ r command rest inner outer,
      Reads ⟨.program, given.head?.bind programName?⟩ {} given.tail r (some (command, rest)) ∧ command ≠ .help ∧
        readCommand (given.head?.bind programName?) command rest = .ok inner ∧
        r.finish ⟨.program, given.head?.bind programName?⟩ = .ok outer ∧
        combine outer inner (commanded command inner) = i := by
  simp only [ofArguments, Except.bind_eq_ok, Prod.exists, arguments_eq_ok]
  constructor
  · rintro ⟨r, found, reads, answered⟩
    match found with
    | none => cases answered
    | some (.help, rest) => cases answered
    | some (.program, rest) | some (.locate, rest) | some (.parse, rest) =>
      simp only [Except.bind_eq_ok] at answered
      obtain ⟨inner, read, outer, finished, combined⟩ := answered
      cases combined
      exact ⟨r, _, rest, inner, outer, reads, by simp, read, finished, rfl⟩
  · rintro ⟨r, command, rest, inner, outer, reads, carried, read, finished, rfl⟩
    refine ⟨r, _, reads, ?_⟩
    cases command with
    | help => contradiction
    | program | locate | parse =>
      simp only [Except.bind_eq_ok]
      exact ⟨inner, read, outer, finished, rfl⟩

theorem commanded_eq_parse {command : Level} {r : Reading} {request : ParseRequest} :
    commanded command r = .parse request ↔ command = .parse ∧ ∃ file, r.file = some file ∧ request =
      { file, incomplete := r.has .incomplete, keepFunctionBodies := r.has .keepFunctionBodies,
        noDetailedRecords := r.has .noDetailedRecords, clangArgs := r.clangArgs } := by
  cases command with
  | program | locate | help => simp [commanded]
  | parse =>
    cases named : r.file with
    | none => simp [commanded, named]
    | some file => simp [commanded, named, eq_comm]

end Invocation

end ClangAccess
