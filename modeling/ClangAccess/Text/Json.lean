namespace ClangAccess

/-- One character of a JSON string: short escapes where there are any, four hexadecimal digits for the other
controls, everything else as it is. -/
def jsonChar (c : Char) : List Char :=
  if c = '"' then ['\\', '"']
  else if c = '\\' then ['\\', '\\']
  else if c = '\x08' then ['\\', 'b']
  else if c = '\x0c' then ['\\', 'f']
  else if c = '\n' then ['\\', 'n']
  else if c = '\r' then ['\\', 'r']
  else if c = '\t' then ['\\', 't']
  else if c.toNat < 0x20 then
    ['\\', 'u', '0', '0', Nat.digitChar (c.toNat / 16), Nat.digitChar (c.toNat % 16)]
  else [c]

def jsonString (s : String) : String :=
  String.ofList ('"' :: s.toList.flatMap jsonChar ++ ['"'])

/-- An object over several lines: one field a line, indented by two blanks. The values are already written. -/
def jsonObject (fields : List (String × String)) : String :=
  "\x7b\n" ++ ",\n".intercalate (fields.map fun (name, value) => "  " ++ jsonString name ++ ": " ++ value) ++ "\n\x7d"

def jsonOption (write : α → String) : Option α → String
  | none => "null"
  | some x => write x

end ClangAccess
