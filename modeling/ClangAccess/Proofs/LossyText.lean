import ClangAccess.Proofs.Utf8Reading
import ClangAccess.Text.Blank

namespace ClangAccess

namespace Utf8

/-- The bytes that a piece was read from. -/
def Piece.bytes : Piece → Bytes
  | .char c => String.utf8EncodeChar c
  | .broken bytes => bytes

theorem Reading.flatMap_bytes {bytes : Bytes} {ps : List Piece} (reading : Reading bytes ps) :
    ps.flatMap Piece.bytes = bytes := by
  induction reading with
  | nil => rfl
  | char _ ih => rw [List.flatMap_cons, ih, Piece.bytes]
  | broken _ _ _ _ _ ih => rw [List.flatMap_cons, ih, Piece.bytes]

/-- After the first byte of a character there is none that could stand for itself. -/
theorem utf8EncodeChar_tail {c : Char} {b : UInt8} {tail : Bytes} (encodes : String.utf8EncodeChar c = b :: tail) :
    ∀ a ∈ tail, 0x80 ≤ a.toNat := by
  have encoding := utf8EncodeChar_iff.mp encodes
  intro a member
  cases encoding with
  | one => exact nomatch member
  | two => grind
  | three => grind
  | four => grind

theorem utf8EncodeChar_ascii {c : Char} {a : UInt8} {tail : Bytes} (encodes : String.utf8EncodeChar c = a :: tail)
    (ascii : a.toNat < 0x80) : c = Char.ofNat a.toNat ∧ tail = [] := by
  have encoding := utf8EncodeChar_iff.mp encodes
  generalize code : c.toNat = v at encoding
  cases encoding with
  | one _ same => exact ⟨by rw [same, ← code, Char.ofNat_toNat], rfl⟩
  | two => omega
  | three => omega
  | four => omega

theorem not_begins_of_ascii {front : Bytes} {a : UInt8} (some : front ≠ []) (ascii : a.toNat < 0x80) :
    ¬Begins (front ++ [a]) := by
  rintro ⟨c, more, encodes⟩
  obtain ⟨b, tail, rfl⟩ := List.exists_cons_of_ne_nil some
  have high := utf8EncodeChar_tail encodes.symm a (by simp)
  omega

/-- A newline after some bytes is read as one, whatever they are. -/
theorem Reading.newline {bytes : Bytes} {ps : List Piece} (reading : Reading bytes ps) :
    Reading (bytes ++ [0x0A]) (ps ++ [.char '\n']) := by
  have ascii : (0x0A : UInt8).toNat < 0x80 := by decide
  induction reading with
  | nil =>
    have single : Reading (String.utf8EncodeChar '\n' ++ []) [.char '\n'] := .char .nil
    exact single
  | char _ ih =>
    rw [List.append_assoc, List.cons_append]
    exact .char ih
  | @broken front rest more some none could stops _ ih =>
    rw [List.append_assoc, List.cons_append]
    refine .broken some (fun c opens => ?_) could (fun b first => ?_) ih
    · rw [← List.append_assoc] at opens
      rcases List.prefix_concat_iff.mp opens with whole | within
      · -- the whole would be one character, which does not end in a byte that stands for itself
        have begins : Begins (front ++ rest ++ [0x0A]) := ⟨c, whole ▸ List.prefix_rfl⟩
        exact not_begins_of_ascii (List.append_ne_nil_of_left_ne_nil some rest) ascii begins
      · exact none c within
    · cases rest with
      | nil =>
        obtain rfl : 0x0A = b := by simpa using first
        exact not_begins_of_ascii some ascii
      | cons => exact stops b (by simpa using first)

theorem Piece.char_of_isBlank {piece : Piece} (blank : isBlank piece.shown = true) : piece = .char piece.shown := by
  cases piece with
  | char c => rfl
  | broken bytes =>
    have replacement : isBlank (Char.ofNat 0xFFFD) = false := by decide
    exact nomatch replacement.symm.trans blank

end Utf8

namespace Bytes

variable {bytes : Bytes} {c : Char}

theorem toList_lossy (bytes : Bytes) : bytes.lossy.toList = (Utf8.pieces bytes).map Utf8.Piece.shown :=
  String.toList_ofList

theorem lossy_ofText (s : String) : (Bytes.ofText s).lossy = s := by
  have each : Utf8.Piece.shown ∘ Utf8.Piece.char = id := rfl
  rw [lossy, ofText, Utf8.pieces_flatMap, List.map_map, each, List.map_id, String.ofList_toList]

theorem toList_lossy_newline (bytes : Bytes) : (bytes ++ [0x0A]).lossy.toList = bytes.lossy.toList ++ ['\n'] := by
  rw [toList_lossy, toList_lossy, (Utf8.pieces_reading bytes).newline.pieces, List.map_append]
  rfl

/-- A blank that shows in some bytes is there. -/
theorem lossy_blank_split {front back : List Char} (blank : isBlank c = true)
    (shows : bytes.lossy.toList = front ++ c :: back) :
    ∃ before after, bytes = before ++ String.utf8EncodeChar c ++ after ∧ (front = [] → before = []) ∧
      (back = [] → after = []) := by
  rw [toList_lossy] at shows
  obtain ⟨before, rest, split, rfl, there⟩ := List.map_eq_append_iff.mp shows
  obtain ⟨piece, after, rfl, rfl, rfl⟩ := List.map_eq_cons_iff.mp there
  have whole := (Utf8.pieces_reading bytes).flatMap_bytes
  rw [split, Utf8.Piece.char_of_isBlank blank] at whole
  refine ⟨before.flatMap Utf8.Piece.bytes, after.flatMap Utf8.Piece.bytes, ?_, ?_, ?_⟩
  · rw [← whole]
    simp [Utf8.Piece.bytes]
  · intro none
    simp [List.map_eq_nil_iff.mp none]
  · intro none
    simp [List.map_eq_nil_iff.mp none]

theorem lossy_nonempty (some : bytes ≠ []) : bytes.lossy.toList ≠ [] := by
  intro none
  rw [toList_lossy, List.map_eq_nil_iff] at none
  have whole := (Utf8.pieces_reading bytes).flatMap_bytes
  rw [none] at whole
  exact some whole.symm

/-- Bytes are what their text encodes only if they encode a text. -/
theorem ofText_lossy_eq_iff : Bytes.ofText bytes.lossy = bytes ↔ ∃ text, bytes = Bytes.ofText text := by
  constructor
  · exact fun same => ⟨bytes.lossy, same.symm⟩
  · rintro ⟨text, rfl⟩
    rw [lossy_ofText]

end Bytes

end ClangAccess
