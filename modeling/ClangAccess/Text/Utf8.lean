namespace ClangAccess

/-- Text as the operating system keeps it: any bytes, by custom but not by force UTF-8. -/
abbrev Bytes := List UInt8

namespace Utf8

/-- A stretch of bytes as a reader of UTF-8 sees it. -/
inductive Piece where
  | char (c : Char)
  | broken (bytes : Bytes)
  deriving DecidableEq, Repr

/-- A sequence that has begun: its bytes so far, the bits they gave, and the ranges still to come. -/
structure Pending where
  seen : Bytes
  bits : Nat
  want : List (UInt8 × UInt8)
  deriving DecidableEq, Repr

def Pending.idle : Pending := ⟨[], 0, []⟩

/-- Any byte that may continue a sequence. The byte after the first is held to a narrower range where a
wider one would admit surrogates, overlong forms or code points past the last. -/
def continuation : UInt8 × UInt8 := (0x80, 0xBF)

/-- The sequence that a byte begins, if it can begin one. -/
def lead? (b : UInt8) : Option Pending :=
  if b < 0x80 then some ⟨[b], b.toNat, []⟩
  else if b < 0xC2 then none
  else if b < 0xE0 then some ⟨[b], b.toNat - 0xC0, [continuation]⟩
  else if b = 0xE0 then some ⟨[b], 0, [(0xA0, 0xBF), continuation]⟩
  else if b = 0xED then some ⟨[b], 0x0D, [(0x80, 0x9F), continuation]⟩
  else if b < 0xF0 then some ⟨[b], b.toNat - 0xE0, [continuation, continuation]⟩
  else if b = 0xF0 then some ⟨[b], 0, [(0x90, 0xBF), continuation, continuation]⟩
  else if b < 0xF4 then some ⟨[b], b.toNat - 0xF0, [continuation, continuation, continuation]⟩
  else if b = 0xF4 then some ⟨[b], 4, [(0x80, 0x8F), continuation, continuation]⟩
  else none

/-- A sequence that wants nothing more is a character. -/
def Pending.settle (p : Pending) : List Piece × Pending :=
  if p.want.isEmpty then ([.char (Char.ofNat p.bits)], .idle) else ([], p)

def start (b : UInt8) : List Piece × Pending :=
  match lead? b with
  | some p => p.settle
  | none => ([.broken [b]], .idle)

/-- One byte further. A byte that cannot continue the sequence breaks it off and is read again as a first
byte, so each broken piece is as long as it can be. -/
def Pending.feed (p : Pending) (b : UInt8) : List Piece × Pending :=
  match p.want with
  | [] => start b
  | (low, high) :: more =>
    if low ≤ b && b ≤ high then
      Pending.settle ⟨p.seen ++ [b], p.bits * 64 + (b.toNat - 0x80), more⟩
    else
      let (out, next) := start b
      (.broken p.seen :: out, next)

def scan (p : Pending) : Bytes → List Piece
  | [] => if p.seen.isEmpty then [] else [.broken p.seen]
  | b :: rest => (p.feed b).1 ++ scan (p.feed b).2 rest

/-- The characters of a byte string and, between them, the bytes that belong to none. -/
def pieces (bytes : Bytes) : List Piece :=
  scan .idle bytes

def Piece.char? : Piece → Option Char
  | .char c => some c
  | .broken _ => none

/-- What stands for a piece in text: a broken one becomes a single replacement character. -/
def Piece.shown : Piece → Char
  | .char c => c
  | .broken _ => Char.ofNat 0xFFFD

end Utf8

/-- The text that some bytes encode, if they are well formed. -/
def Bytes.text? (bytes : Bytes) : Option String :=
  ((Utf8.pieces bytes).mapM Utf8.Piece.char?).map String.ofList

/-- The text of some bytes, with a replacement character for each maximal broken piece. -/
def Bytes.lossy (bytes : Bytes) : String :=
  String.ofList ((Utf8.pieces bytes).map Utf8.Piece.shown)

/-- The UTF-8 bytes of a text. -/
def Bytes.ofText (s : String) : Bytes :=
  s.toList.flatMap String.utf8EncodeChar

end ClangAccess
