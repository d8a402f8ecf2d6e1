import ClangAccess.Script.Command
import ClangAccess.Script.Pattern
import ClangAccess.Site

namespace ClangAccess.Script

/-- Where a stream goes. -/
inductive Sink where
  | output
  | errors
  | nowhere
  deriving DecidableEq, Repr

structure Streams where
  output : Sink := .output
  errors : Sink := .errors

/-- A script at work. What it has written is kept backwards. -/
structure State where
  name : Chars
  arguments : List Chars
  bindings : List (Chars × Chars)
  status : Nat := 0
  output : Chars := []
  errors : Chars := []
  microseconds : Nat := 0

/-- A script goes on, has ended, or never ends. -/
inductive Progress where
  | going (s : State)
  | over (s : State) (status : ExitStatus)
  | endless

/-- The number that a script goes by among the processes. -/
def ownNumber : Chars := "4242".toList

namespace State

def write (s : State) (sink : Sink) (cs : Chars) : State :=
  match sink with
  | .output => { s with output := cs.reverseAux s.output }
  | .errors => { s with errors := cs.reverseAux s.errors }
  | .nowhere => s

def assign (s : State) (name value : Chars) : State :=
  { s with bindings := (name, value) :: s.bindings.filter fun (other, _) => other ≠ name }

def unset (s : State) (name : Chars) : State :=
  { s with bindings := s.bindings.filter fun (other, _) => other ≠ name }

def decimal (n : Nat) : Chars := (toString n).toList

/-- The value of a parameter, empty if there is none. -/
def parameter (s : State) (name : Chars) : Chars :=
  match name with
  | ['?'] => decimal s.status
  | ['#'] => decimal s.arguments.length
  | ['$'] => ownNumber
  | ['*'] => [' '].intercalate s.arguments
  | ['0'] => s.name
  | [c] => if c.isDigit then (s.arguments[c.toNat - '1'.toNat]?).getD [] else (s.bindings.lookup name).getD []
  | name => (s.bindings.lookup name).getD []

def going (s : State) (status : Nat) : Progress := .going { s with status }

end State

/-- The number that a text is in full. -/
def number? (cs : Chars) : Option Int :=
  match cs with
  | '-' :: rest => (natural? rest).map fun n => -(n : Int)
  | '+' :: rest => (natural? rest).map Int.ofNat
  | rest => (natural? rest).map Int.ofNat
where
  natural? (cs : Chars) : Option Nat :=
    if !cs.isEmpty && cs.all Char.isDigit then some (cs.foldl (fun n c => n * 10 + (c.toNat - '0'.toNat)) 0)
    else none

/-- The value of a sum; a variable without a number counts as zero. -/
def Sum.value (s : State) : Sum → Int
  | number n => n
  | parameter name => (number? (s.parameter name)).getD 0
  | apply operation left right =>
    let a := left.value s
    let b := right.value s
    match operation with
    | .add => a + b
    | .subtract => a - b
    | .multiply => a * b
    | .divide => a.tdiv b
    | .remainder => a.tmod b

/-- The fields that a word turns into, the last one still open. -/
structure Fields where
  closed : List Chars := []
  current : Option Chars := none

namespace Fields

def extend (f : Fields) (cs : Chars) : Fields := { f with current := some (f.current.getD [] ++ cs) }

def close (f : Fields) : Fields := ⟨f.closed ++ f.current.toList, none⟩

def isGap (c : Char) : Bool := c = ' ' || c = '\t' || c = '\n'

/-- Text without quotes falls apart at blanks. -/
def splice (f : Fields) : Chars → Fields
  | [] => f
  | c :: rest => if isGap c then f.close.splice rest else (f.extend [c]).splice rest

/-- Several texts, each a field of its own. -/
def spread (f : Fields) (add : Fields → Chars → Fields) : List Chars → Fields
  | [] => f
  | [last] => add f last
  | first :: rest => (add f first).close.spread add rest

def add (s : State) (f : Fields) : Piece → Fields
  | .text content _ => f.extend content
  | .parameter name true => f.extend (s.parameter name)
  | .parameter name false => f.splice (s.parameter name)
  | .arguments true => f.spread extend s.arguments
  | .arguments false => f.spread splice s.arguments
  | .sum value => f.extend (toString (value.value s)).toList

end Fields

/-- The fields of some words. -/
def State.fields (s : State) (words : List Word) : List Chars :=
  words.flatMap fun w => (w.foldl (Fields.add s) {}).close.closed

/-- A word as one text. -/
def State.text (s : State) (w : Word) : Chars :=
  [' '].intercalate (w.foldl (Fields.add s) {}).close.closed

/-- The marks of a word as a pattern. -/
def State.marks (s : State) (w : Word) : List Mark :=
  w.flatMap fun
    | .text content false => Mark.ofChars content.length content
    | .parameter name false => Mark.ofChars (s.parameter name).length (s.parameter name)
    | piece => (s.text [piece]).map .char

/-- Up to some octal digits as a byte, and what follows them. -/
def readOctal : (digits : Nat) → Nat → Chars → Char × Chars
  | digits + 1, value, c :: rest =>
    if '0' ≤ c && c ≤ '7' then readOctal digits (value * 8 + (c.toNat - '0'.toNat)) rest
    else (Char.ofNat (value % 256), c :: rest)
  | _, value, rest => (Char.ofNat (value % 256), rest)

/-- What a backslash and the characters after it stand for. -/
def readEscape (cs : Chars) : Char × Chars :=
  match cs with
  | 'a' :: rest => ('\x07', rest)
  | 'b' :: rest => ('\x08', rest)
  | 'f' :: rest => ('\x0c', rest)
  | 'n' :: rest => ('\n', rest)
  | 'r' :: rest => ('\r', rest)
  | 't' :: rest => ('\t', rest)
  | 'v' :: rest => ('\x0b', rest)
  | '\\' :: rest => ('\\', rest)
  | c :: rest => if '0' ≤ c && c ≤ '7' then readOctal 3 0 (c :: rest) else ('\\', c :: rest)
  | [] => ('\\', [])

/-- A text with its escapes resolved, and whether it was cut off by the escape that ends all output. A zero
before octal digits is not one of them. -/
def unescape : (steps : Nat) → Chars → Chars × Bool
  | 0, _ | _, [] => ([], false)
  | steps + 1, '\\' :: rest =>
    match rest with
    | 'c' :: _ => ([], true)
    | '0' :: d :: more =>
      let (c, after) := readEscape (if '0' ≤ d && d ≤ '7' then d :: more else rest)
      let (cs, cut) := unescape steps after
      (c :: cs, cut)
    | rest =>
      let (c, after) := readEscape rest
      let (cs, cut) := unescape steps after
      (c :: cs, cut)
  | steps + 1, c :: rest =>
    let (cs, cut) := unescape steps rest
    (c :: cs, cut)

/-- The arguments in a row, with a newline unless the first one says otherwise. -/
def echo (args : List Chars) : Chars :=
  let (args, ending) := if args.head? = some "-n".toList then (args.tail, []) else (args, ['\n'])
  let line := [' '].intercalate args
  match unescape line.length line with
  | (cs, true) => cs
  | (cs, false) => cs ++ ending

/-- One pass over a format; the arguments that are left. -/
def printOnce : (steps : Nat) → Chars → List Chars → Chars × List Chars
  | 0, _, args | _, [], args => ([], args)
  | steps + 1, '\\' :: rest, args =>
    let (c, after) := readEscape rest
    let (cs, args) := printOnce steps after args
    (c :: cs, args)
  | steps + 1, '%' :: '%' :: rest, args =>
    let (cs, args) := printOnce steps rest args
    ('%' :: cs, args)
  | steps + 1, '%' :: kind :: rest, args =>
    let given := args.headD []
    let shown := match kind with
      | 's' => given
      | 'b' => (unescape given.length given).1
      | 'c' => given.take 1
      | 'd' | 'i' | 'u' => (toString ((number? given).getD 0)).toList
      | 'x' => Nat.toDigits 16 ((number? given).getD 0).toNat
      | 'o' => Nat.toDigits 8 ((number? given).getD 0).toNat
      | _ => ['%', kind]
    let (cs, args) := printOnce steps rest args.tail
    (shown ++ cs, args)
  | steps + 1, c :: rest, args =>
    let (cs, args) := printOnce steps rest args
    (c :: cs, args)

/-- A format filled in with arguments, over again as long as that uses some up. -/
def print : (rounds : Nat) → Chars → List Chars → Chars
  | 0, _, _ => []
  | rounds + 1, format, args =>
    let (cs, left) := printOnce (format.length + 1) format args
    if left.isEmpty || left.length = args.length then cs else cs ++ print rounds format left

/-- Whether two numbers stand in the relation that an option names. -/
def compares? (op : Chars) (a b : Int) : Option Bool :=
  match String.ofList op with
  | "-eq" => some (a = b)
  | "-ne" => some (a ≠ b)
  | "-lt" => some (a < b)
  | "-le" => some (a ≤ b)
  | "-gt" => some (b < a)
  | "-ge" => some (b ≤ a)
  | _ => none

/-- Whether a test holds, if it is one. -/
def holds? : List Chars → Option Bool
  | [] => some false
  | [a] => some !a.isEmpty
  | ['!'] :: rest => (holds? rest).map not
  | [['-', 'n'], a] => some !a.isEmpty
  | [['-', 'z'], a] => some a.isEmpty
  | [a, ['='], b] => some (a = b)
  | [a, ['!', '='], b] => some (a ≠ b)
  | [a, op, b] => do compares? op (← number? a) (← number? b)
  | _ => none

def test (args : List Chars) : Nat :=
  match holds? args with
  | some true => 0
  | some false => 1
  | none => 2

/-- The signal that an argument names, by number or by name. -/
def signal? (cs : Chars) : Option Nat :=
  match number? cs with
  | some n => if 0 ≤ n ∧ n ≤ 64 then some n.toNat else none
  | none => (ExitStatus.signalNames.findIdx? fun name => name.toList = cs || name.toList.drop 3 = cs).map (· + 1)

/-- What a signal does to a script that does not handle it. No script leaves a core behind. -/
def deliver (s : State) (signal : Nat) : Progress :=
  if [0, 17, 18, 23, 28].contains signal then s.going 0
  else if [19, 20, 21, 22].contains signal then .endless
  else .over s (.killed signal false)

/-- Send a signal. A script knows no process but itself. -/
def kill (s : State) (streams : Streams) (args : List Chars) : Progress :=
  let (signal, targets) := match args with
    | ['-', 's'] :: name :: rest => (signal? name, rest)
    | ('-' :: name) :: rest => (signal? name, rest)
    | rest => (some 15, rest)
  match signal, targets with
  | some signal, [target] =>
    if target = ownNumber then deliver s signal
    else (s.write streams.errors (s.name ++ ": 1: kill: No such process\n\n".toList)).going 1
  | _, _ => s.going 2

/-- Starts another program by name and arguments, if there is such a program. -/
abbrev Starter := Chars → List Chars → Option Launch

/-- Go on after another program has run. -/
def resume (s : State) (streams : Streams) : Launch → Progress
  | .endless => .endless
  | .refused _ => s.going 126
  | .ended microseconds status output errors =>
    let s := (s.write streams.output (ofBytes output)).write streams.errors (ofBytes errors)
    let s := { s with microseconds := s.microseconds + microseconds }
    match status with
    | .exited code => s.going code
    | .killed signal _ => s.going (128 + signal)

/-- Let another program take the place of the script. -/
def replace (s : State) (streams : Streams) (launch : Launch) : Progress :=
  match launch, resume s streams launch with
  | .ended _ status _ _, .going s => .over s status
  | _, .going s => .over s (.exited s.status)
  | _, progress => progress

/-- Store what `export` and its like are told. -/
def declare (s : State) : List Chars → State
  | [] => s
  | arg :: rest =>
    match arg.span (· ≠ '=') with
    | (name, _ :: value) => declare (s.assign name value) rest
    | _ => declare s rest

/-- Say what is wrong on a line. -/
def State.complain (s : State) (streams : Streams) (line : Nat) (text : Chars) : State :=
  s.write streams.errors (s.name ++ s!": {line}: ".toList ++ text ++ ['\n'])

/-- Say that there is no such program. -/
def unknown (s : State) (streams : Streams) (line : Nat) (name : Chars) : State :=
  s.complain streams line (name ++ ": not found".toList)

/-- Run one command of a name and some arguments. -/
def perform (start : Starter) (s : State) (streams : Streams) (line : Nat) (name : Chars) (args : List Chars) :
    Progress :=
  match String.ofList name with
  | ":" | "true" | "set" | "cd" | "umask" | "trap" => s.going 0
  | "false" => s.going 1
  | "echo" => (s.write streams.output (echo args)).going 0
  | "printf" =>
    match args with
    | [] => s.going 2
    | format :: args => (s.write streams.output (print (args.length + 1) format args)).going 0
  | "exit" =>
    match args with
    | [] => .over s (.exited s.status)
    | code :: _ =>
      match number?.natural? code with
      | some n => .over s (.exited (n % 256))
      | none =>
        .over (s.complain streams line ("exit: Illegal number: ".toList ++ code)) (.exited 2)
  | "kill" => kill s streams args
  | "test" => s.going (test args)
  | "[" => if args.getLast? = some [']'] then s.going (test args.dropLast) else s.going 2
  | "read" => (args.foldl (fun s name => s.assign name []) s).going 1
  | "shift" =>
    match s.arguments with
    | [] => .over (s.complain streams line "shift: can't shift that many".toList) (.exited 2)
    | _ :: rest => State.going { s with arguments := rest } 0
  | "export" | "readonly" | "local" => (declare s args).going 0
  | "unset" => (args.foldl State.unset s).going 0
  | "exec" =>
    match args with
    | [] => s.going 0
    | name :: args =>
      match start name args with
      | some launch => replace s streams launch
      | none => .over (unknown s streams line ("exec: ".toList ++ name)) (.exited 127)
  | _ =>
    match start name args with
    | some launch => resume s streams launch
    | none => (unknown s streams line name).going 127

def Streams.redirect (streams : Streams) : Redirection → Streams
  | .toOutput ofErrors => if ofErrors then { streams with errors := streams.output } else streams
  | .toErrors ofErrors => if ofErrors then streams else { streams with output := streams.errors }
  | .discarded ofErrors =>
    if ofErrors then { streams with errors := .nowhere } else { streams with output := .nowhere }
  | .input => streams

/-- Do something for each of some values of a variable. -/
def turns (body : State → Progress) (name : Chars) : List Chars → State → Progress
  | [], s => .going s
  | value :: rest, s =>
    match body (s.assign name value) with
    | .going s => turns body name rest s
    | progress => progress

/-- Run a command for so many steps; one that takes more is held to be endless. -/
def run (start : Starter) : (steps : Nat) → Command → Streams → State → Progress
  | 0, _, _, _ => .endless
  | steps + 1, command, streams, s =>
    match command with
    | .nothing => .going s
    | .simple line assignments words =>
      let fields := s.fields words
      let s' := assignments.foldl (fun s (name, value) => s.assign name (s.text value)) s
      match fields with
      | [] => s'.going 0
      | name :: args => perform start s' streams line name args
    | .redirected inner redirections => run start steps inner (redirections.foldl Streams.redirect streams) s
    | .sequence first second =>
      match run start steps first streams s with
      | .going s => run start steps second streams s
      | progress => progress
    | .both first second =>
      match run start steps first streams s with
      | .going s => if s.status = 0 then run start steps second streams s else .going s
      | progress => progress
    | .either first second =>
      match run start steps first streams s with
      | .going s => if s.status = 0 then .going s else run start steps second streams s
      | progress => progress
    | .negated inner =>
      match run start steps inner streams s with
      | .going s => s.going (if s.status = 0 then 1 else 0)
      | progress => progress
    | .conditional condition yes no =>
      match run start steps condition streams s with
      | .going s =>
        if s.status = 0 then run start steps yes streams s
        else run start steps no streams { s with status := 0 }
      | progress => progress
    | .loop stopWhenTrue condition body =>
      match run start steps condition streams s with
      | .going s =>
        if (s.status = 0) = stopWhenTrue then s.going 0
        else
          match run start steps body streams s with
          | .going s => run start steps (.loop stopWhenTrue condition body) streams s
          | progress => progress
      | progress => progress
    | .each name words body =>
      turns (run start steps body streams) name (s.fields words) { s with status := 0 }
    | .choice subject branches =>
      let text := s.text subject
      match branches.find? fun (patterns, _) => patterns.any fun p => Mark.fits (s.marks p) text with
      | some (_, body) => run start steps body streams { s with status := 0 }
      | none => s.going 0

end ClangAccess.Script
