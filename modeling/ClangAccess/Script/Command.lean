import ClangAccess.Script.Word

namespace ClangAccess.Script

inductive Command where
  | nothing
  | simple (line : Nat) (assignments : List (Chars × Word)) (words : List Word)
  | redirected (inner : Command) (redirections : List Redirection)
  | sequence (first second : Command)
  | both (first second : Command)
  | either (first second : Command)
  | negated (inner : Command)
  | conditional (condition yes no : Command)
  | loop (stopWhenTrue : Bool) (condition body : Command)
  | each (name : Chars) (words : List Word) (body : Command)
  | choice (subject : Word) (branches : List (List Word × Command))
  deriving Repr

namespace Command

/-- The text of a word without quotes and parameters. -/
def plainText? : Word → Option Chars
  | [] => some []
  | .text content false :: rest => (plainText? rest).map (content ++ ·)
  | _ :: _ => none

/-- The keyword that a token may be where a command begins. -/
def keyword? : Token → Option String
  | .word pieces _ =>
    match plainText? pieces with
    | some text => keywords.find? fun k => k.toList = text
    | none => none
  | _ => none
where
  keywords : List String :=
    ["if", "then", "elif", "else", "fi", "while", "until", "do", "done", "for", "in", "case", "esac",
     "\x7b", "\x7d", "!"]

/-- Keywords that end a list of commands. -/
def closers : List String := ["then", "elif", "else", "fi", "do", "done", "esac", "\x7d"]

def closes (t : Token) : Bool :=
  t = .doubleSemicolon || t = .closeParen ||
    match keyword? t with
    | some k => closers.contains k
    | none => false

def skipNewlines (ts : List Token) : List Token := ts.dropWhile (· = .newline)

/-- What follows a keyword, if the tokens begin with it. -/
def expect (keyword : String) : List Token → Option (List Token)
  | t :: rest => if keyword? t = some keyword then some rest else none
  | [] => none

/-- The name and value of a word that assigns. -/
def assignment? (w : Word) : Option (Chars × Word) :=
  let (front, rest) := w.span fun
    | .text [c] false => c ≠ '='
    | _ => false
  match plainText? front, rest with
  | some (c :: name), .text ['='] false :: value =>
    if Token.isNameStart c && name.all Token.isNameChar then some (c :: name, value) else none
  | _, _ => none

/-- A command of words, assignments and redirections. -/
def simpleOf (line : Nat) (words : List Word) (redirections : List Redirection) : Command :=
  let assigning := words.takeWhile fun w => (assignment? w).isSome
  let inner := simple line (assigning.filterMap assignment?) (words.drop assigning.length)
  if redirections.isEmpty then inner else redirected inner redirections

/-- The words and redirections up to the next token that is neither. -/
def readSimple : List Token → List Word × List Redirection × List Token
  | .word w _ :: rest =>
    let (words, redirections, rest) := readSimple rest
    (w :: words, redirections, rest)
  | .redirection r :: rest =>
    let (words, redirections, rest) := readSimple rest
    (words, r :: redirections, rest)
  | ts => ([], [], ts)

/-- The redirections at the front. -/
def readRedirections : List Token → List Redirection × List Token
  | .redirection r :: rest =>
    let (more, rest) := readRedirections rest
    (r :: more, rest)
  | ts => ([], ts)

/-- The words up to the end of a line or a semicolon. -/
def readWords : List Token → Option (List Word × List Token)
  | .word w _ :: rest => do
    let (words, rest) ← readWords rest
    some (w :: words, rest)
  | .semicolon :: rest | .newline :: rest => some ([], rest)
  | _ => none

/-- The patterns of a branch, up to the parenthesis. -/
def readPatterns : List Token → Option (List Word × List Token)
  | .word w _ :: .closeParen :: rest => some ([w], rest)
  | .word w _ :: .bar :: rest => do
    let (patterns, rest) ← readPatterns rest
    some (w :: patterns, rest)
  | _ => none

/-- The line on which some tokens begin. -/
def lineOf : List Token → Nat
  | .word _ line :: _ => line
  | _ :: rest => lineOf rest
  | [] => 1

mutual

/-- Commands up to a token that closes them, which is left. -/
def readList : (steps : Nat) → List Token → Option (Command × List Token)
  | 0, _ => none
  | steps + 1, ts =>
    let ts := skipNewlines ts
    if ts.isEmpty || ts.head?.any closes then some (.nothing, ts)
    else do
      let (first, rest) ← readChain steps ts
      match rest with
      | .semicolon :: rest | .newline :: rest => do
        let (second, rest) ← readList steps rest
        some (.sequence first second, rest)
      | rest => some (first, rest)

/-- Commands between which a success or a failure decides. -/
def readChain : (steps : Nat) → List Token → Option (Command × List Token)
  | 0, _ => none
  | steps + 1, ts => do
    let (first, rest) ← readNegation steps ts
    readMore steps first rest

def readMore : (steps : Nat) → Command → List Token → Option (Command × List Token)
  | 0, _, _ => none
  | steps + 1, left, ts =>
    match ts with
    | .both :: rest => do
      let (right, rest) ← readNegation steps (skipNewlines rest)
      readMore steps (.both left right) rest
    | .either :: rest => do
      let (right, rest) ← readNegation steps (skipNewlines rest)
      readMore steps (.either left right) rest
    | ts => some (left, ts)

def readNegation : (steps : Nat) → List Token → Option (Command × List Token)
  | 0, _ => none
  | steps + 1, ts =>
    match expect "!" ts with
    | some rest => (readCommand steps rest).map fun (inner, rest) => (.negated inner, rest)
    | none => readCommand steps ts

/-- One command with its redirections. -/
def readCommand : (steps : Nat) → List Token → Option (Command × List Token)
  | 0, _ => none
  | steps + 1, ts =>
    match ts with
    | [] => none
    | t :: rest =>
      match keyword? t with
      | none =>
        match readSimple ts with
        | ([], [], _) => none
        | (words, redirections, rest) => some (simpleOf (lineOf ts) words redirections, rest)
      | some keyword => do
        let (inner, rest) ← readCompound steps keyword rest
        match readRedirections rest with
        | ([], rest) => some (inner, rest)
        | (redirections, rest) => some (.redirected inner redirections, rest)

/-- What a keyword begins. -/
def readCompound : (steps : Nat) → String → List Token → Option (Command × List Token)
  | 0, _, _ => none
  | steps + 1, keyword, ts =>
    match keyword with
    | "\x7b" => do
      let (inner, rest) ← readList steps ts
      some (inner, ← expect "\x7d" rest)
    | "if" => do
      let (condition, rest) ← readList steps ts
      let (yes, rest) ← readList steps (← expect "then" rest)
      let (no, rest) ← readElse steps rest
      some (.conditional condition yes no, rest)
    | "while" => readLoop steps false ts
    | "until" => readLoop steps true ts
    | "for" =>
      match ts with
      | .word w _ :: rest => do
        let name ← plainText? w
        let (words, rest) ← match expect "in" rest with
          | some rest => readWords rest
          | none => some ([[.arguments true]], rest.dropWhile (· = .semicolon))
        let (body, rest) ← readList steps (← expect "do" (skipNewlines rest))
        some (.each name words body, ← expect "done" rest)
      | _ => none
    | "case" =>
      match ts with
      | .word subject _ :: rest => do
        let rest ← expect "in" (skipNewlines rest)
        let (branches, rest) ← readBranches steps rest
        some (.choice subject branches, rest)
      | _ => none
    | _ => none

def readLoop : (steps : Nat) → Bool → List Token → Option (Command × List Token)
  | 0, _, _ => none
  | steps + 1, stopWhenTrue, ts => do
    let (condition, rest) ← readList steps ts
    let (body, rest) ← readList steps (← expect "do" rest)
    some (.loop stopWhenTrue condition body, ← expect "done" rest)

/-- What is done if a condition fails, through to the end of the conditional. -/
def readElse : (steps : Nat) → List Token → Option (Command × List Token)
  | 0, _ => none
  | steps + 1, ts =>
    match ts.head?.bind keyword? with
    | some "fi" => some (.nothing, ts.tail)
    | some "else" => do
      let (no, rest) ← readList steps ts.tail
      some (no, ← expect "fi" rest)
    | some "elif" => do
      let (condition, rest) ← readList steps ts.tail
      let (yes, rest) ← readList steps (← expect "then" rest)
      let (no, rest) ← readElse steps rest
      some (.conditional condition yes no, rest)
    | _ => none

/-- The branches of a choice, through to its end. -/
def readBranches : (steps : Nat) → List Token → Option (List (List Word × Command) × List Token)
  | 0, _ => none
  | steps + 1, ts =>
    match skipNewlines ts with
    | [] => none
    | t :: rest =>
      if keyword? t = some "esac" then some ([], rest)
      else do
        let (patterns, rest) ← readPatterns (if t = .openParen then rest else t :: rest)
        let (body, rest) ← readList steps rest
        let rest := match rest with
          | .doubleSemicolon :: rest => rest
          | rest => rest
        let (branches, rest) ← readBranches steps rest
        some ((patterns, body) :: branches, rest)

end

/-- The command that a whole script is. -/
def ofChars? (cs : Chars) : Option Command := do
  let ts ← Token.ofChars? cs
  match ← readList (8 * ts.length + 8) ts with
  | (c, []) => some c
  | _ => none

end Command

end ClangAccess.Script
