import ClangAccess.Text.Utf8

namespace ClangAccess.Script

/-- What a script is made of. Scripts are read byte by byte, so each character stands for one byte. -/
abbrev Chars := List Char

def ofBytes (bytes : Bytes) : Chars := bytes.map fun b => Char.ofNat b.toNat

def toBytes (cs : Chars) : Bytes := cs.map fun c => UInt8.ofNat c.toNat

def ofText (s : String) : Chars := ofBytes (Bytes.ofText s)

inductive Operation where
  | add
  | subtract
  | multiply
  | divide
  | remainder
  deriving DecidableEq, Repr

inductive Sum where
  | number (value : Int)
  | parameter (name : Chars)
  | apply (operation : Operation) (left right : Sum)
  deriving DecidableEq, Repr

/-- A piece of a word. A quoted piece stands for one stretch of text, whatever it holds. -/
inductive Piece where
  | text (content : Chars) (isQuoted : Bool)
  | parameter (name : Chars) (isQuoted : Bool)
  /-- All arguments of the script. -/
  | arguments (isQuoted : Bool)
  | sum (value : Sum)
  deriving DecidableEq, Repr

abbrev Word := List Piece

/-- Where the output of one stream goes instead. -/
inductive Redirection where
  | toOutput (ofErrors : Bool)
  | toErrors (ofErrors : Bool)
  | discarded (ofErrors : Bool)
  /-- There is never any input. -/
  | input
  deriving DecidableEq, Repr

inductive Token where
  | word (pieces : Word) (line : Nat)
  | redirection (r : Redirection)
  | newline
  | semicolon
  | doubleSemicolon
  | both
  | either
  | bar
  | openParen
  | closeParen
  deriving DecidableEq, Repr

namespace Token

def isNameStart (c : Char) : Bool := c.isAlpha || c = '_'

def isNameChar (c : Char) : Bool := c.isAlphanum || c = '_'

/-- Characters that end a word unless they are quoted. -/
def endsWord (c : Char) : Bool := [' ', '\t', '\n', ';', '&', '|', '(', ')', '<', '>'].contains c

/-- A sum, an operand in it, or the operators that follow. -/
inductive Goal where
  | sum
  | product
  | operand
  | moreSum (left : Sum)
  | moreProduct (left : Sum)

/-- Read a goal of a sum from some characters without blanks. Every second step takes a character, so the
steps are bounded by the length. -/
def readSum : (steps : Nat) → Goal → Chars → Option (Sum × Chars)
  | 0, _, _ => none
  | steps + 1, .sum, cs => do
    let (left, rest) ← readSum steps .product cs
    readSum steps (.moreSum left) rest
  | steps + 1, .moreSum left, cs =>
    match cs with
    | '+' :: rest => do
      let (right, rest) ← readSum steps .product rest
      readSum steps (.moreSum (.apply .add left right)) rest
    | '-' :: rest => do
      let (right, rest) ← readSum steps .product rest
      readSum steps (.moreSum (.apply .subtract left right)) rest
    | _ => some (left, cs)
  | steps + 1, .product, cs => do
    let (left, rest) ← readSum steps .operand cs
    readSum steps (.moreProduct left) rest
  | steps + 1, .moreProduct left, cs =>
    match cs with
    | '*' :: rest => do
      let (right, rest) ← readSum steps .operand rest
      readSum steps (.moreProduct (.apply .multiply left right)) rest
    | '/' :: rest => do
      let (right, rest) ← readSum steps .operand rest
      readSum steps (.moreProduct (.apply .divide left right)) rest
    | '%' :: rest => do
      let (right, rest) ← readSum steps .operand rest
      readSum steps (.moreProduct (.apply .remainder left right)) rest
    | _ => some (left, cs)
  | steps + 1, .operand, cs =>
    match cs with
    | '(' :: rest => do
      let (inner, rest) ← readSum steps .sum rest
      match rest with
      | ')' :: rest => some (inner, rest)
      | _ => none
    | '-' :: rest => do
      let (inner, rest) ← readSum steps .operand rest
      some (.apply .subtract (.number 0) inner, rest)
    | '$' :: c :: rest =>
      if isNameStart c then some (.parameter ((c :: rest).takeWhile isNameChar), (c :: rest).dropWhile isNameChar)
      else none
    | c :: rest =>
      if c.isDigit then
        some (.number (digits ((c :: rest).takeWhile Char.isDigit)), (c :: rest).dropWhile Char.isDigit)
      else if isNameStart c then
        some (.parameter ((c :: rest).takeWhile isNameChar), (c :: rest).dropWhile isNameChar)
      else none
    | [] => none
where
  digits (cs : Chars) : Nat := cs.foldl (fun n c => n * 10 + (c.toNat - '0'.toNat)) 0

/-- The text of a sum up to the two parentheses that close it, and what follows. -/
def splitSum (depth : Nat) : Chars → Option (Chars × Chars)
  | ')' :: ')' :: rest => if depth = 0 then some ([], rest) else step ')' (splitSum (depth - 1) (')' :: rest))
  | ')' :: rest => step ')' (splitSum (depth - 1) rest)
  | '(' :: rest => step '(' (splitSum (depth + 1) rest)
  | c :: rest => step c (splitSum depth rest)
  | [] => none
where
  step (c : Char) (split : Option (Chars × Chars)) : Option (Chars × Chars) :=
    split.map fun (inner, rest) => (c :: inner, rest)

/-- What a dollar sign begins. -/
def readDollar (isQuoted : Bool) (cs : Chars) : Option (Piece × Chars) :=
  match cs with
  | '(' :: '(' :: rest => do
    let (inner, rest) ← splitSum 0 rest
    let inner := inner.filter fun c => !c.isWhitespace
    match ← readSum (4 * inner.length + 4) .sum inner with
    | (value, []) => some (.sum value, rest)
    | _ => none
  | '(' :: _ => none
  | '\x7b' :: rest =>
    match rest.span (· ≠ '\x7d') with
    | (name, _ :: rest) => if name.all isNameChar then some (.parameter name isQuoted, rest) else none
    | _ => none
  | '@' :: rest => some (.arguments isQuoted, rest)
  | '*' :: rest => some (if isQuoted then .parameter ['*'] true else .arguments false, rest)
  | c :: rest =>
    if isNameStart c then
      some (.parameter ((c :: rest).takeWhile isNameChar) isQuoted, (c :: rest).dropWhile isNameChar)
    else if c.isDigit || ['#', '?', '$', '!', '-'].contains c then some (.parameter [c] isQuoted, rest)
    else some (.text ['$'] isQuoted, c :: rest)
  | [] => some (.text ['$'] isQuoted, [])

/-- The pieces between double quotes, and what follows the closing one. -/
def readQuoted : (steps : Nat) → Chars → Option (Word × Chars)
  | 0, _ => none
  | steps + 1, cs =>
    match cs with
    | [] => none
    | '\x22' :: rest => some ([.text [] true], rest)
    | '\\' :: '\n' :: rest => readQuoted steps rest
    | '\\' :: c :: rest => do
      let taken := if ['$', '\x60', '\x22', '\\'].contains c then [c] else ['\\', c]
      let (pieces, rest) ← readQuoted steps rest
      some (.text taken true :: pieces, rest)
    | '$' :: rest => do
      let (piece, rest) ← readDollar true rest
      let (pieces, rest) ← readQuoted steps rest
      some (piece :: pieces, rest)
    | '\x60' :: _ => none
    | c :: rest => do
      let (pieces, rest) ← readQuoted steps rest
      some (.text [c] true :: pieces, rest)

/-- The pieces of a word, and what follows it. -/
def readWord : (steps : Nat) → Chars → Option (Word × Chars)
  | 0, _ => none
  | steps + 1, cs =>
    match cs with
    | [] => some ([], [])
    | '\x27' :: rest =>
      match rest.span (· ≠ '\x27') with
      | (inner, _ :: rest) => do
        let (pieces, rest) ← readWord steps rest
        some (.text inner true :: pieces, rest)
      | _ => none
    | '\x22' :: rest => do
      let (quoted, rest) ← readQuoted (rest.length + 1) rest
      let (pieces, rest) ← readWord steps rest
      some (quoted ++ pieces, rest)
    | '\\' :: '\n' :: rest => readWord steps rest
    | '\\' :: c :: rest => do
      let (pieces, rest) ← readWord steps rest
      some (.text [c] true :: pieces, rest)
    | '$' :: rest => do
      let (piece, rest) ← readDollar false rest
      let (pieces, rest) ← readWord steps rest
      some (piece :: pieces, rest)
    | '\x60' :: _ => none
    | c :: rest =>
      if endsWord c then some ([], c :: rest)
      else do
        let (pieces, rest) ← readWord steps rest
        some (.text [c] false :: pieces, rest)

/-- The redirection to a target. Only the streams and the empty device are targets. -/
def redirection? (ofErrors : Bool) (target : Chars) : Option Redirection :=
  if target = "/dev/null".toList then some (.discarded ofErrors) else none

/-- The redirection that follows the sign for output, and what follows it. -/
def readRedirection (ofErrors : Bool) (cs : Chars) : Option (Redirection × Chars) :=
  match cs with
  | '&' :: '1' :: rest => some (.toOutput ofErrors, rest)
  | '&' :: '2' :: rest => some (.toErrors ofErrors, rest)
  | '>' :: rest => named rest
  | rest => named rest
where
  named (cs : Chars) : Option (Redirection × Chars) :=
    let cs := cs.dropWhile fun c => c = ' ' || c = '\t'
    (redirection? ofErrors (cs.takeWhile fun c => !endsWord c)).map fun r =>
      (r, cs.dropWhile fun c => !endsWord c)

/-- The tokens of a script of some lines. There are none if it holds something outside the language. -/
def readAll (lines : Nat) : (steps : Nat) → Chars → Option (List Token)
  | 0, _ => none
  | steps + 1, cs =>
    match cs with
    | [] => some []
    | ' ' :: rest | '\t' :: rest => readAll lines steps rest
    | '\\' :: '\n' :: rest => readAll lines steps rest
    | '#' :: rest => readAll lines steps (rest.dropWhile (· ≠ '\n'))
    | '\n' :: rest => (readAll lines steps rest).map (.newline :: ·)
    | ';' :: ';' :: rest => (readAll lines steps rest).map (.doubleSemicolon :: ·)
    | ';' :: rest => (readAll lines steps rest).map (.semicolon :: ·)
    | '&' :: '&' :: rest => (readAll lines steps rest).map (.both :: ·)
    | '|' :: '|' :: rest => (readAll lines steps rest).map (.either :: ·)
    | '|' :: rest => (readAll lines steps rest).map (.bar :: ·)
    | '(' :: rest => (readAll lines steps rest).map (.openParen :: ·)
    | ')' :: rest => (readAll lines steps rest).map (.closeParen :: ·)
    | '2' :: '>' :: rest => do
      let (r, rest) ← readRedirection true rest
      (readAll lines steps rest).map (.redirection r :: ·)
    | '1' :: '>' :: rest | '>' :: rest => do
      let (r, rest) ← readRedirection false rest
      (readAll lines steps rest).map (.redirection r :: ·)
    | '<' :: rest => do
      let (_, rest) ← readRedirection false rest
      (readAll lines steps rest).map (.redirection .input :: ·)
    | cs => do
      let (pieces, rest) ← readWord (cs.length + 1) cs
      if pieces.isEmpty then none else (readAll lines steps rest).map (.word pieces (lines - cs.count '\n') :: ·)

def ofChars? (cs : Chars) : Option (List Token) := readAll (cs.count '\n' + 1) (cs.length + 1) cs

end Token

end ClangAccess.Script
