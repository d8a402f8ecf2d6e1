import ClangAccess.FileTree
import ClangAccess.Script.Run

namespace ClangAccess

/-- A machine with some files, an environment and a working directory. Its programs are scripts for the
shell; beside them there is only one that sleeps. -/
structure Machine where
  tree : FileTree
  env : List (String × Bytes)
  workingDir : Route

namespace Machine

def lookup (m : Machine) (name : String) : Option Bytes := m.env.lookup name

def view (m : Machine) : FileView := m.tree.view m.workingDir

def isExecutable (m : Machine) (p : Path) : Bool :=
  match m.tree.follow m.workingDir p with
  | .ok (.file _ executable _) => executable
  | _ => false

def colon : UInt8 := 0x3A

/-- The stretches between colons, empty ones included. -/
def entries : Bytes → List Bytes
  | [] => [[]]
  | b :: rest =>
    match entries rest with
    | [] => [[b]]
    | e :: more => if b = colon then [] :: e :: more else (b :: e) :: more

/-- The names in a path that are more than a dot, with an anchor before them if there is one. -/
def hasSeveralComponents (p : Path) : Bool :=
  let (anchor, names) := p.components
  let anchored := if anchor.isEmpty then 0 else 1
  1 < anchored + names.length

/-- The home directory, for whoever has none the one of the superuser. -/
def home (m : Machine) : Path :=
  match m.lookup "HOME" with
  | some (b :: rest) => ⟨b :: rest⟩
  | _ => .ofText "/root"

/-- A directory of the search path; a tilde that stands alone at its front is the home directory. -/
def searchDir (m : Machine) (entry : Bytes) : Path :=
  match entry with
  | 0x7E :: rest =>
    if rest.isEmpty || rest.head? = some Path.slash then
      (Path.names ⟨rest⟩).foldl (fun dir name => dir.join ⟨name⟩) m.home
    else ⟨entry⟩
  | _ => ⟨entry⟩

/-- Where the search path finds a program. A name that leads through a directory is not searched for. -/
def find (m : Machine) (name : String) : Option Path :=
  let p := Path.ofText name
  let candidates :=
    if hasSeveralComponents p then [(FileTree.routePath m.workingDir).join p]
    else
      match m.lookup "PATH" with
      | none => []
      | some value => (entries value).map fun entry => (m.searchDir entry).join p
  candidates.find? m.isExecutable

/-- Why a file cannot be started, if it cannot. -/
def obstacle? (m : Machine) (p : Path) : Option FileError :=
  match m.tree.follow m.workingDir p with
  | .error e => some e
  | .ok (.file _ true _) => none
  | .ok _ => some .permissionDenied

/-- The search path of a start, which has a default. -/
def startPath (m : Machine) : Bytes := (m.lookup "PATH").getD (Bytes.ofText "/bin:/usr/bin")

/-- The file to start for a program, and the reason against it if there is one. A bare name is tried in each
directory of the search path; a file that must not be started is remembered, but the search goes on. -/
def startable (m : Machine) (program : Path) : Except FileError Path :=
  if program.bytes.contains Path.slash then
    match m.obstacle? program with
    | none => .ok program
    | some e => .error e
  else if program.isEmpty then .error .noEntry
  else if FileTree.nameLimit ≤ program.bytes.length then .error .nameTooLong
  else search ((entries m.startPath).map candidate) .noEntry
where
  candidate (entry : Bytes) : Path :=
    if entry.isEmpty then program else ⟨entry ++ Path.slash :: program.bytes⟩
  search : List Path → FileError → Except FileError Path
    | [], e => .error e
    | p :: rest, e =>
      match m.obstacle? p with
      | none => .ok p
      | some .permissionDenied => search rest .permissionDenied
      | some .noEntry | some .notDirectory => search rest e
      | some other => .error other

/-- The script in a file that names the shell on its first line. -/
def script? (m : Machine) (p : Path) : Option Script.Chars :=
  match m.tree.follow m.workingDir p with
  | .ok (.file _ _ (.bytes content)) =>
    let cs := Script.ofBytes content
    let (first, rest) := cs.span (· ≠ '\n')
    if "#!".toList.isPrefixOf first && interpreter (first.drop 2) = "/bin/sh".toList then some ('#' :: rest)
    else none
  | _ => none
where
  interpreter (cs : Script.Chars) : Script.Chars := (cs.dropWhile (· = ' ')).takeWhile (· ≠ ' ')

/-- How long to sleep for some arguments, in microseconds. -/
def duration? (args : List Bytes) : Option Nat :=
  match args with
  | [arg] =>
    let cs := Script.ofBytes arg
    match cs.span (· ≠ '.') with
    | (whole, fraction) =>
      let digits := (fraction.drop 1 ++ "000000".toList).take 6
      match Script.number? whole, Script.number? digits with
      | some seconds, some microseconds => some (seconds.toNat * 1000000 + microseconds.toNat)
      | _, _ => none
  | _ => none

def sleepers : List Path := [.ofText "/bin/sleep", .ofText "/usr/bin/sleep"]

def sleep (args : List Bytes) : Launch :=
  match duration? args with
  | some microseconds => .ended microseconds .success [] []
  | none => .ended 0 (.exited 1) [] (Bytes.ofText "sleep: invalid time interval\n")

/-- Scripts may take so many steps. -/
def stepLimit : Nat := 1_000_000

/-- Scripts may start each other so many levels deep. -/
def depthLimit : Nat := 20

/-- A script at its end, with what it has written. -/
def ending (s : Script.State) (status : ExitStatus) : Launch :=
  .ended s.microseconds status (Script.toBytes s.output.reverse) (Script.toBytes s.errors.reverse)

/-- Start a program, at so many levels above the last one. -/
def launch (m : Machine) : (depth : Nat) → Path → List Bytes → Launch
  | 0, _, _ => .endless
  | depth + 1, program, args =>
    if sleepers.contains program then sleep args
    else
      match m.startable program with
      | .error e => .refused e.message
      | .ok file =>
        match m.script? file with
        | none => .refused FileError.notExecutable.message
        | some cs =>
          let start (name : Script.Chars) (args : List Script.Chars) : Option Launch :=
            match launch m depth ⟨Script.toBytes name⟩ (args.map Script.toBytes) with
            | .refused _ => none
            | launch => some launch
          let state : Script.State :=
            { name := Script.ofBytes file.bytes
              arguments := args.map Script.ofBytes
              bindings := m.env.map fun (name, value) => (Script.ofText name, Script.ofBytes value) }
          match Script.Command.ofChars? cs with
          | none =>
            ending (state.write .errors (state.name ++ ": Syntax error\n".toList)) (.exited 2)
          | some command =>
            match Script.run start stepLimit command {} state with
            | .going s => ending s (.exited s.status)
            | .over s status => ending s status
            | .endless => .endless

/-- Neither a program nor an argument can hold a zero byte. -/
def start (m : Machine) (program : Path) (args : List String) : Launch :=
  let args := args.map Bytes.ofText
  if program.bytes.contains 0 || args.any fun arg => arg.contains 0 then
    .refused "nul byte found in provided data"
  else m.launch depthLimit program args

def site (m : Machine) : Site where
  env := m.lookup
  find := m.find
  launch := m.start
  canonical? := m.view.canonical?

end Machine

end ClangAccess
