import ClangAccess.Text.Json
import Mathlib.Data.List.Forall2

namespace ClangAccess

/-- The letters of the short escapes, each with the character that it stands for. -/
def shortEscapes : List (Char × Char) :=
  [('"', '"'), ('\\', '\\'), ('b', '\x08'), ('f', '\x0c'), ('n', '\n'), ('r', '\r'), ('t', '\t')]

/-- How a character is written inside a JSON string. -/
inductive JsonEscaped : Char → List Char → Prop
  | short {letter c} : (letter, c) ∈ shortEscapes → JsonEscaped c ['\\', letter]
  | control {c} : c.toNat < 0x20 →
      JsonEscaped c ['\\', 'u', '0', '0', Nat.digitChar (c.toNat / 16), Nat.digitChar (c.toNat % 16)]
  | plain {c} : c ≠ '"' → c ≠ '\\' → JsonEscaped c [c]

theorem jsonChar_escaped (c : Char) : JsonEscaped c (jsonChar c) := by
  unfold jsonChar
  split_ifs with quote backslash backspace feed newline carriage tab control
  · exact .short (by simp [shortEscapes, quote])
  · exact .short (by simp [shortEscapes, backslash])
  · exact .short (by simp [shortEscapes, backspace])
  · exact .short (by simp [shortEscapes, feed])
  · exact .short (by simp [shortEscapes, newline])
  · exact .short (by simp [shortEscapes, carriage])
  · exact .short (by simp [shortEscapes, tab])
  · exact .control control
  · exact .plain quote backslash

/-- The number of a lowercase hexadecimal digit. -/
def hexValue (digit : Char) : Nat := if digit.isDigit then digit.toNat - 48 else digit.toNat - 87

theorem hexValue_digitChar {n : Nat} (small : n < 16) : hexValue (Nat.digitChar n) = n := by
  have each : ∀ n < 16, hexValue (Nat.digitChar n) = n := by decide
  exact each n small

/-- The next character of a JSON string, read from what was written, and what comes behind it. There is none where the
string is closed. -/
def jsonChar? : List Char → Option (Char × List Char)
  | '"' :: _ => none
  | '\\' :: 'u' :: '0' :: '0' :: high :: low :: rest => some (Char.ofNat (16 * hexValue high + hexValue low), rest)
  | '\\' :: letter :: rest => (shortEscapes.lookup letter).map (·, rest)
  | c :: rest => some (c, rest)
  | [] => none

theorem JsonEscaped.read {c : Char} {written : List Char} (escaped : JsonEscaped c written) (rest : List Char) :
    jsonChar? (written ++ rest) = some (c, rest) := by
  cases escaped with
  | @short letter _ listed =>
    simp only [shortEscapes, List.mem_cons, List.not_mem_nil, or_false, Prod.mk.injEq] at listed
    rcases listed with ⟨rfl, rfl⟩ | ⟨rfl, rfl⟩ | ⟨rfl, rfl⟩ | ⟨rfl, rfl⟩ | ⟨rfl, rfl⟩ | ⟨rfl, rfl⟩ | ⟨rfl, rfl⟩ <;> rfl
  | control small =>
    have high : hexValue (Nat.digitChar (c.toNat / 16)) = c.toNat / 16 := hexValue_digitChar (by omega)
    have low : hexValue (Nat.digitChar (c.toNat % 16)) = c.toNat % 16 := hexValue_digitChar (by omega)
    simp only [List.cons_append, List.nil_append, jsonChar?, high, low, Nat.div_add_mod, Char.ofNat_toNat]
  | plain quote backslash =>
    rw [List.singleton_append]
    unfold jsonChar?
    split <;> simp_all

/-- Two texts of characters that are each closed by a quote are the same up to there if they are the same with what
follows. -/
theorem flatMap_jsonChar_inj {xs ys rest more : List Char}
    (same : xs.flatMap jsonChar ++ '"' :: rest = ys.flatMap jsonChar ++ '"' :: more) : xs = ys ∧ rest = more := by
  have next : ∀ (c : Char) (cs rest : List Char),
      jsonChar? ((c :: cs).flatMap jsonChar ++ '"' :: rest) = some (c, cs.flatMap jsonChar ++ '"' :: rest) := by
    intro c cs rest
    rw [List.flatMap_cons, List.append_assoc, (jsonChar_escaped c).read]
  -- both sides are read a character at a time, and only a quote reads as none
  induction xs generalizing ys with
  | nil =>
    cases ys with
    | nil => exact ⟨rfl, (List.cons.inj same).2⟩
    | cons y ys => exact nomatch (congrArg jsonChar? same).trans (next y ys more)
  | cons x xs ih =>
    have read := (next x xs rest).symm.trans (congrArg jsonChar? same)
    cases ys with
    | nil => exact nomatch read
    | cons y ys =>
      obtain ⟨rfl, later⟩ := Prod.mk.inj (Option.some.inj (read.trans (next y ys more)))
      obtain ⟨rfl, rest⟩ := ih later
      exact ⟨rfl, rest⟩

/-- What is written can be told from what follows. -/
def SelfDelimiting {α : Type} (write : α → String) : Prop :=
  ∀ x y rest more, (write x).toList ++ rest = (write y).toList ++ more → x = y ∧ rest = more

theorem toList_jsonString (s : String) : (jsonString s).toList = '"' :: s.toList.flatMap jsonChar ++ ['"'] :=
  String.toList_ofList

theorem jsonString_selfDelimiting : SelfDelimiting jsonString := by
  intro s t rest more same
  rw [toList_jsonString, toList_jsonString, List.append_assoc, List.append_assoc] at same
  obtain ⟨characters, later⟩ := flatMap_jsonChar_inj (List.cons.inj same).2
  exact ⟨String.toList_inj.mp characters, later⟩

theorem SelfDelimiting.comp {α β : Type} {write : α → String} {f : β → α} (delimits : SelfDelimiting write)
    (distinct : Function.Injective f) : SelfDelimiting (write ∘ f) := fun x y rest more same =>
  (delimits (f x) (f y) rest more same).imp_left fun same => distinct same

theorem SelfDelimiting.injective {α : Type} {write : α → String} (delimits : SelfDelimiting write) :
    Function.Injective write := fun x y same =>
  (delimits x y [] [] (congrArg (·.toList ++ []) same)).1

/-- A value that may be missing: strings do not begin like the word for none. -/
theorem jsonOption_selfDelimiting : SelfDelimiting (jsonOption jsonString) := by
  intro x y rest more same
  have null : (jsonOption jsonString none).toList = ['n', 'u', 'l', 'l'] := rfl
  have filled : ∀ s, (jsonOption jsonString (some s)).toList = '"' :: s.toList.flatMap jsonChar ++ ['"'] :=
    toList_jsonString
  cases x with
  | none =>
    cases y with
    | none => exact ⟨rfl, List.append_cancel_left same⟩
    | some t => rw [null, filled] at same; cases same
  | some s =>
    cases y with
    | none => rw [null, filled] at same; cases same
    | some t => exact (jsonString_selfDelimiting s t rest more same).imp_left (congrArg some)

/-- Two fields of one name whose values can be told from what follows. -/
structure FieldAlike (f g : String × String) : Prop where
  name : f.1 = g.1
  told : ∀ rest more, f.2.toList ++ rest = g.2.toList ++ more → f.2 = g.2 ∧ rest = more

theorem SelfDelimiting.fieldAlike {α : Type} {write : α → String} (delimits : SelfDelimiting write) (name : String)
    (x y : α) : FieldAlike (name, write x) (name, write y) :=
  ⟨rfl, fun rest more same => (delimits x y rest more same).imp_left (congrArg write)⟩

/-- A field as it stands in an object. -/
def jsonField (field : String × String) : String := "  " ++ jsonString field.1 ++ ": " ++ field.2

theorem FieldAlike.told_field {f g : String × String} {rest more : List Char} (alike : FieldAlike f g)
    (same : (jsonField f).toList ++ rest = (jsonField g).toList ++ more) : f = g ∧ rest = more := by
  rw [jsonField, jsonField, alike.name, String.toList_append, String.toList_append (t := g.2), List.append_assoc,
    List.append_assoc] at same
  obtain ⟨value, later⟩ := alike.told rest more (List.append_cancel_left same)
  exact ⟨Prod.ext alike.name value, later⟩

theorem told_fields {fs gs : List (String × String)} {rest more : List Char} (alike : List.Forall₂ FieldAlike fs gs)
    (same : (",\n".intercalate (fs.map jsonField)).toList ++ rest =
      (",\n".intercalate (gs.map jsonField)).toList ++ more) : fs = gs ∧ rest = more := by
  induction alike with
  | nil => exact ⟨rfl, same⟩
  | cons first others ih =>
    cases others with
    | nil =>
      obtain ⟨rfl, later⟩ := first.told_field same
      exact ⟨rfl, later⟩
    | cons second others =>
      simp only [List.map_cons, String.intercalate_cons_cons, String.toList_append, List.append_assoc] at same ih
      obtain ⟨rfl, later⟩ := first.told_field same
      obtain ⟨others, rest⟩ := ih (List.append_cancel_left later)
      exact ⟨congrArg _ others, rest⟩

/-- Two objects with the same names are the same text only if they have the same values. -/
theorem jsonObject_inj {fs gs : List (String × String)} (alike : List.Forall₂ FieldAlike fs gs)
    (same : jsonObject fs = jsonObject gs) : fs = gs := by
  have whole := congrArg String.toList same
  simp only [jsonObject, String.toList_append, List.append_assoc] at whole
  exact (told_fields alike (List.append_cancel_left whole)).1

end ClangAccess
