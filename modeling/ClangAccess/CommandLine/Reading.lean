import ClangAccess.CommandLine.Refusal

namespace ClangAccess

/-- An argument by its form. -/
inductive Token where
  | escape
  | long (name : Bytes) (value : Option Bytes)
  | cluster (flags : Bytes)
  | plain
  deriving DecidableEq, Repr

namespace Token

def dash : UInt8 := 0x2D
def equals : UInt8 := 0x3D

/-- A lone dash is a plain argument; what follows the first equals sign of a long option is its value. -/
def ofArgument : Bytes → Token
  | [] => .plain
  | first :: rest =>
    if first = dash then
      match rest with
      | [] => .plain
      | second :: more =>
        if second = dash then
          if more.isEmpty then .escape
          else
            match more.dropWhile (· ≠ equals) with
            | [] => .long more none
            | _ :: value => .long (more.takeWhile (· ≠ equals)) (some value)
        else .cluster rest
    else .plain

end Token

/-- An argument that has been read but not yet checked: an option that may still wait for its value, or
what stands in a place. It is checked when the next thing begins. -/
inductive Pending where
  | libclangDir (value : Option Bytes)
  | file (value : Bytes)
  | clangArgs (values : List Bytes)
  deriving DecidableEq, Repr

/-- What has been read at one level. `given` holds the options that were given, a repeated one at its last
place. -/
structure Reading where
  given : List Opt := []
  verbose : Nat := 0
  quiet : Nat := 0
  libclangDir : Option Path := none
  file : Option Path := none
  clangArgs : List String := []
  pending : Option Pending := none
  deriving DecidableEq, Repr

namespace Reading

def has (r : Reading) (o : Opt) : Bool := r.given.contains o

/-- An option that has been begun needs a value now. -/
def awaiting (r : Reading) : Bool := r.pending = some (.libclangDir none)

def hasFile (r : Reading) : Bool :=
  match r.pending with
  | some (.file _) => true
  | _ => r.file.isSome

/-- The usage that a message shows: what was given so far, or the general form if that is nothing. -/
def usage (a : Addressee) (r : Reading) (extra : List Opt) : String :=
  if r.given.isEmpty && extra.isEmpty && r.file.isNone && r.clangArgs.isEmpty then a.usage
  else a.usageWith (r.given ++ extra) !r.clangArgs.isEmpty

def refuse (fault : Fault) (usage : String) : Except Stop α := .error (.refused fault [] (some usage))

def missingValue (argument : String) : Except Stop α := .error (.refused (.missingValue argument) [] none)

def setLibclangDir (a : Addressee) (r : Reading) (value : Bytes) : Except Stop Reading :=
  if r.has .libclangDir then refuse (.repeated Opt.libclangDir.display) a.usage
  else if value.isEmpty then missingValue Opt.libclangDir.display
  else .ok { r with given := r.given ++ [.libclangDir], libclangDir := some ⟨value⟩ }

/-- Check what is pending. Arguments for clang must be text, and neither a file nor a directory has an empty
name. -/
def settle (a : Addressee) (r : Reading) : Except Stop Reading :=
  let rest := { r with pending := none }
  match r.pending with
  | none => .ok r
  | some (.libclangDir none) => missingValue Opt.libclangDir.display
  | some (.libclangDir (some value)) => rest.setLibclangDir a value
  | some (.file value) =>
    if value.isEmpty then missingValue "<FILE>" else .ok { rest with file := some ⟨value⟩ }
  | some (.clangArgs values) =>
    match values.mapM Bytes.text? with
    | some texts => .ok { rest with clangArgs := texts }
    | none => refuse .notText a.usage

/-- What is pending, checked if it can be: a fault that is already certain comes first. -/
def settled (a : Addressee) (r : Reading) : Reading := (r.settle a).toOption.getD r

/-- How far options are counted. -/
def countLimit : Nat := 255

/-- One more of an option that is counted; a counter that is full stays as it is. -/
def count (n : Nat) : Nat := min (n + 1) countLimit

/-- An option that has no value. Those that are counted may be repeated. -/
def flag (a : Addressee) (r : Reading) (o : Opt) : Except Stop Reading := do
  let r ← r.settle a
  match o with
  | .help => .error (.help (Help.text a))
  | .version => .error .version
  | .verbose => return { r with given := r.given.erase o ++ [o], verbose := count r.verbose }
  | .quiet => return { r with given := r.given.erase o ++ [o], quiet := count r.quiet }
  | o => if r.has o then refuse (.repeated o.display) a.usage else return { r with given := r.given ++ [o] }

def asValueTip (a : Addressee) (argument : String) : List String :=
  if a.level.hasPositionals then [Tip.asValue argument] else []

/-- The options of a cluster one after the other. -/
def cluster (a : Addressee) : Reading → List Utf8.Piece → Except Stop Reading
  | r, [] => .ok r
  | r, .char c :: rest =>
    match a.level.ofShort? c with
    | some o => do cluster a (← r.flag a o) rest
    | none =>
      let argument := "-" ++ c.toString
      .error (.refused (.unknownArgument argument) (asValueTip a argument) (some a.usage))
  | _, .broken bytes :: rest =>
    let argument := "-" ++ String.ofList ((Utf8.Piece.broken bytes :: rest).map Utf8.Piece.shown)
    .error (.refused (.unknownArgument argument) (asValueTip a argument) (some a.usage))

/-- The most similar option of a command that is named later on. -/
def commandOption? (name : String) (rest : List Bytes) : Option (String × String) :=
  let found := [Level.locate, Level.parse].filterMap fun command => do
    let o ← (similarTo name (command.options.map Opt.long)).getLast?
    let place ← rest.findIdx? (· == Bytes.ofText command.name)
    return (place, command.name, o)
  match found with
  | [] => none
  | first :: more => some (more.foldl (fun best next => if next.1 < best.1 then next else best) first).2

/-- The refusal of a long option that the level does not have, with what may have been meant. -/
def unknownLong (a : Addressee) (r : Reading) (name : String) (rest : List Bytes) : Stop :=
  let fault := Fault.unknownArgument ("--" ++ name)
  let r := r.settled a
  match (similarTo name (a.level.options.map Opt.long)).getLast? with
  | some near =>
    .refused fault [Tip.similarArgument ("--" ++ near)] (some (usage a r (a.level.ofLong? near).toList))
  | none =>
    match if a.level = .program then commandOption? name rest else none with
    | some (command, near) => .refused fault [Tip.argumentOf command ("--" ++ near)] (some (usage a r []))
    | none => .refused fault (asValueTip a ("--" ++ name)) (some (usage a r []))

/-- A long option, with its value if one is attached. -/
def long (a : Addressee) (r : Reading) (name : Bytes) (value : Option Bytes) (rest : List Bytes) :
    Except Stop Reading :=
  match name.text?.bind a.level.ofLong?, value with
  | none, _ => .error (unknownLong a r name.lossy rest)
  | some .libclangDir, none => do return { ← r.settle a with pending := some (.libclangDir none) }
  | some .libclangDir, some value => do (← r.settle a).setLibclangDir a value
  | some o, none => r.flag a o
  | some o, some value => refuse (.unexpectedValue value.lossy o.display) (usage a r [o])

/-- The refusal of an argument that has no place at its level. -/
def unplaced (a : Addressee) (argument : Bytes) (trailing : Bool) : Stop :=
  let shown := argument.lossy
  if a.level = .program then
    if trailing && (Level.command? argument).isSome then
      .refused (.unknownArgument shown) [Tip.withoutDashes shown] (some a.usage)
    else
      let near := similarTo shown (Level.commands.map Level.name)
      .refused (.unknownCommand shown) (if near.isEmpty then [] else [Tip.similarCommands near]) (some a.usage)
  else .refused (.unknownArgument shown) [] (some a.usage)

/-- An argument that is no option, before the dashes that end the options. -/
def place (a : Addressee) (r : Reading) (argument : Bytes) : Except Stop Reading :=
  if a.level.hasPositionals && !r.hasFile then do
    return { ← r.settle a with pending := some (.file argument) }
  else .error (unplaced a argument false)

/-- An argument after those dashes: `parse` hands it to clang. -/
def trailing (a : Addressee) (r : Reading) (argument : Bytes) : Except Stop Reading :=
  if a.level.hasPositionals then
    match r.pending with
    | some (.clangArgs values) => .ok { r with pending := some (.clangArgs (values ++ [argument])) }
    | _ => do return { ← r.settle a with pending := some (.clangArgs [argument]) }
  else .error (unplaced a argument true)

/-- Read the arguments of one level. The program hands over to a command where one is named. -/
def arguments (a : Addressee) (r : Reading) : List Bytes → Except Stop (Reading × Option (Level × List Bytes))
  | [] => .ok (r, none)
  | argument :: rest =>
    match if a.level = .program && !r.awaiting then Level.command? argument else none with
    | some command => .ok (r, some (command, rest))
    | none =>
      match Token.ofArgument argument with
      | .escape => do return (← rest.foldlM (fun r t => r.trailing a t) r, none)
      | .long name value => do (← r.long a name value rest).arguments a rest
      | .cluster flags => do (← r.cluster a (Utf8.pieces flags)).arguments a rest
      | .plain =>
        if r.awaiting then { r with pending := some (.libclangDir (some argument)) }.arguments a rest
        else do (← r.place a argument).arguments a rest

/-- Of two options that exclude each other, both given, the one that comes first and the other. -/
def exclusion? (r : Reading) : Option (Opt × Opt) :=
  match r.given.filter fun o => o == .verbose || o == .quiet with
  | [first, second] => some (first, second)
  | _ => none

/-- The checks at the end of a level. -/
def finish (a : Addressee) (r : Reading) : Except Stop Reading := do
  let r ← r.settle a
  match r.exclusion? with
  | some (first, second) =>
    refuse (.exclusive first.display second.display)
      (a.usageWith (r.given.filter (· ≠ second)) !r.clangArgs.isEmpty)
  | none =>
    if a.level = .parse && r.file.isNone then
      refuse .missingFile (a.usageWith r.given !r.clangArgs.isEmpty)
    else return r

/-- The answer to a program that was given no command. -/
def uncommanded (a : Addressee) (r : Reading) : Stop :=
  match r.settle a with
  | .error stop => stop
  | .ok r =>
    if r.given.isEmpty then .nothingAsked (Help.text a)
    else .refused (.missingCommand a.name) [] (some a.usage)

end Reading

end ClangAccess
