import ClangAccess.Text.Unprintable
import ClangAccess.Text.Extender
import ClangAccess.Text.Utf8

namespace ClangAccess

/-- A code point in lowercase hexadecimal without padding, between braces. -/
def codeEscape (c : Char) : String :=
  "\\u\x7b" ++ String.ofList (Nat.toDigits 16 c.toNat) ++ "\x7d"

/-- One character inside double quotes. Characters that show as nothing, or that would merge with the
character before them, are written by their code point. -/
def quotedChar (c : Char) : String :=
  if c = '\x00' then "\\0"
  else if c = '\t' then "\\t"
  else if c = '\n' then "\\n"
  else if c = '\r' then "\\r"
  else if c = '"' then "\\\""
  else if c = '\\' then "\\\\"
  else if isExtender c || isUnprintable c then codeEscape c
  else c.toString

/-- A text between double quotes, on one line whatever it holds. -/
def quoted (s : String) : String :=
  "\"" ++ String.join (s.toList.map quotedChar) ++ "\""

/-- A byte in two uppercase hexadecimal digits. -/
def byteEscape (b : UInt8) : String :=
  String.ofList ['\\', 'x', Nat.digitChar (b.toNat / 16) |>.toUpper, Nat.digitChar (b.toNat % 16) |>.toUpper]

def quotedPiece : Utf8.Piece → String
  | .char c => quotedChar c
  | .broken bytes => String.join (bytes.map byteEscape)

/-- Like `quoted`, for bytes that need not be text: broken pieces are written byte by byte. -/
def quotedBytes (bytes : Bytes) : String :=
  "\"" ++ String.join ((Utf8.pieces bytes).map quotedPiece) ++ "\""

/-- A list of written items between brackets. -/
def bracketed (items : List String) : String :=
  "[" ++ ", ".intercalate items ++ "]"

/-- A record as `Name`, then its fields between braces. -/
def recordText (name : String) (fields : List (String × String)) : String :=
  name ++ " \x7b " ++ ", ".intercalate (fields.map fun (field, value) => field ++ ": " ++ value) ++ " \x7d"

def optionText (f : α → String) : Option α → String
  | none => "None"
  | some x => "Some(" ++ f x ++ ")"

end ClangAccess
