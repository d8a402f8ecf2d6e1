import ClangAccess.Text.Utf8
import Mathlib.Data.List.Forall2

namespace ClangAccess

namespace Utf8

/-- The bytes that encode a code point: its bits, six to each byte after the first. -/
inductive Encoding : Nat → Bytes → Prop
  | one {v : Nat} {a : UInt8} : v < 0x80 → a.toNat = v → Encoding v [a]
  | two {v : Nat} {a b : UInt8} : 0x80 ≤ v → v < 0x800 → a.toNat = 0xC0 + v / 64 → b.toNat = 0x80 + v % 64 →
      Encoding v [a, b]
  | three {v : Nat} {a b c : UInt8} : 0x800 ≤ v → v < 0x10000 → a.toNat = 0xE0 + v / 4096 →
      b.toNat = 0x80 + v / 64 % 64 → c.toNat = 0x80 + v % 64 → Encoding v [a, b, c]
  | four {v : Nat} {a b c d : UInt8} : 0x10000 ≤ v → v < 0x110000 → a.toNat = 0xF0 + v / 262144 →
      b.toNat = 0x80 + v / 4096 % 64 → c.toNat = 0x80 + v / 64 % 64 → d.toNat = 0x80 + v % 64 →
      Encoding v [a, b, c, d]

theorem ofNat_eq_iff {n : Nat} {b : UInt8} (bound : n < 256) : UInt8.ofNat n = b ↔ b.toNat = n := by
  rw [← UInt8.toNat_inj, UInt8.toNat_ofNat', Nat.mod_eq_of_lt bound, eq_comm]

theorem utf8EncodeChar_iff {c : Char} {bytes : Bytes} :
    String.utf8EncodeChar c = bytes ↔ Encoding c.toNat bytes := by
  have valid : c.val.toNat.isValidChar := c.valid
  change _ ↔ Encoding c.val.toNat bytes
  simp only [String.utf8EncodeChar]
  generalize c.val.toNat = v at valid ⊢
  simp only [Nat.isValidChar] at valid
  constructor
  · rintro rfl
    split_ifs
    · refine .one ?_ ?_ <;> (try rw [UInt8.toNat_ofNat']) <;> omega
    · refine .two ?_ ?_ ?_ ?_ <;> (try rw [UInt8.toNat_ofNat']) <;> omega
    · refine .three ?_ ?_ ?_ ?_ ?_ <;> (try rw [UInt8.toNat_ofNat']) <;> omega
    · refine .four ?_ ?_ ?_ ?_ ?_ ?_ <;> (try rw [UInt8.toNat_ofNat']) <;> omega
  · intro encoding
    cases encoding with
    | one high atA =>
      rw [if_pos (by omega), (ofNat_eq_iff (by omega)).mpr atA]
    | two low high atA atB =>
      rw [if_neg (by omega), if_pos (by omega)]
      simp (disch := omega) only [ofNat_eq_iff, List.cons.injEq, and_true]
      omega
    | three low high atA atB atC =>
      rw [if_neg (by omega), if_neg (by omega), if_pos (by omega)]
      simp (disch := omega) only [ofNat_eq_iff, List.cons.injEq, and_true]
      omega
    | four low high atA atB atC atD =>
      rw [if_neg (by omega), if_neg (by omega), if_neg (by omega)]
      simp (disch := omega) only [ofNat_eq_iff, List.cons.injEq, and_true]
      omega

/-- A byte that lies in a range. -/
def InRange (range : UInt8 × UInt8) (b : UInt8) : Prop := range.1 ≤ b ∧ b ≤ range.2

theorem inRange_iff {low high b : UInt8} : InRange (low, high) b ↔ low.toNat ≤ b.toNat ∧ b.toNat ≤ high.toNat :=
  Iff.rfl

/-- The number that a pending sequence comes to with some more bytes. -/
def Pending.whole (p : Pending) (tail : Bytes) : Nat :=
  tail.foldl (fun bits b => bits * 64 + (b.toNat - 0x80)) p.bits

/-- The bytes that can come first and what they ask for. After some of them the next byte is held to less than
any continuation. -/
inductive Lead (b : UInt8) : Pending → Prop
  | one : b.toNat < 0x80 → Lead b ⟨[b], b.toNat, []⟩
  | two : 0xC2 ≤ b.toNat → b.toNat < 0xE0 → Lead b ⟨[b], b.toNat - 0xC0, [continuation]⟩
  | threeLow : b.toNat = 0xE0 → Lead b ⟨[b], 0, [(0xA0, 0xBF), continuation]⟩
  | threeHigh : b.toNat = 0xED → Lead b ⟨[b], 0x0D, [(0x80, 0x9F), continuation]⟩
  | three : 0xE0 < b.toNat → b.toNat ≠ 0xED → b.toNat < 0xF0 →
      Lead b ⟨[b], b.toNat - 0xE0, [continuation, continuation]⟩
  | fourLow : b.toNat = 0xF0 → Lead b ⟨[b], 0, [(0x90, 0xBF), continuation, continuation]⟩
  | four : 0xF0 < b.toNat → b.toNat < 0xF4 →
      Lead b ⟨[b], b.toNat - 0xF0, [continuation, continuation, continuation]⟩
  | fourHigh : b.toNat = 0xF4 → Lead b ⟨[b], 4, [(0x80, 0x8F), continuation, continuation]⟩

theorem lead?_eq_some {b : UInt8} {p : Pending} : lead? b = some p ↔ Lead b p := by
  simp only [lead?, UInt8.lt_iff_toNat_lt, ← UInt8.toNat_inj, UInt8.reduceToNat]
  constructor
  · intro led
    rcases ite_eq_iff.mp led with ⟨high, ⟨⟩⟩ | ⟨_, led⟩
    · exact .one high
    rcases ite_eq_iff.mp led with ⟨_, ⟨⟩⟩ | ⟨_, led⟩
    rcases ite_eq_iff.mp led with ⟨high, ⟨⟩⟩ | ⟨_, led⟩
    · exact .two (by omega) high
    rcases ite_eq_iff.mp led with ⟨is, ⟨⟩⟩ | ⟨_, led⟩
    · exact .threeLow is
    rcases ite_eq_iff.mp led with ⟨is, ⟨⟩⟩ | ⟨other, led⟩
    · exact .threeHigh is
    rcases ite_eq_iff.mp led with ⟨high, ⟨⟩⟩ | ⟨_, led⟩
    · exact .three (by omega) other high
    rcases ite_eq_iff.mp led with ⟨is, ⟨⟩⟩ | ⟨_, led⟩
    · exact .fourLow is
    rcases ite_eq_iff.mp led with ⟨high, ⟨⟩⟩ | ⟨_, led⟩
    · exact .four (by omega) high
    rcases ite_eq_iff.mp led with ⟨is, ⟨⟩⟩ | ⟨_, ⟨⟩⟩
    exact .fourHigh is
  · intro led
    cases led with
    | one high => rw [if_pos high]
    | two low high =>
      iterate 2 rw [if_neg (by omega)]
      rw [if_pos high]
    | threeLow is =>
      iterate 3 rw [if_neg (by omega)]
      rw [if_pos is]
    | threeHigh is =>
      iterate 4 rw [if_neg (by omega)]
      rw [if_pos is]
    | three low other high =>
      iterate 5 rw [if_neg (by omega)]
      rw [if_pos high]
    | fourLow is =>
      iterate 6 rw [if_neg (by omega)]
      rw [if_pos is]
    | four low high =>
      iterate 7 rw [if_neg (by omega)]
      rw [if_pos high]
    | fourHigh is =>
      iterate 8 rw [if_neg (by omega)]
      rw [if_pos is]

/-- What encodes a character begins with a byte that asks for just what follows. -/
theorem Encoding.lead {b : UInt8} {tail : Bytes} {v : Nat} (encoding : Encoding v (b :: tail))
    (valid : v.isValidChar) : ∃ p, Lead b p ∧ List.Forall₂ InRange p.want tail ∧ p.whole tail = v := by
  simp only [Nat.isValidChar] at valid
  cases encoding with
  | one high atA => exact ⟨_, .one (by omega), .nil, atA⟩
  | two low high atA atB =>
    refine ⟨_, .two (by omega) (by omega), .cons (inRange_iff.mpr ?_) .nil, ?_⟩ <;>
      simp only [Pending.whole, List.foldl, UInt8.reduceToNat] <;> omega
  | three low high atA atB atC =>
    have second := show v / 4096 = 0 ∨ v / 4096 = 13 ∨ 0 < v / 4096 ∧ v / 4096 ≠ 13 by omega
    rcases second with is | is | ⟨some, other⟩
    · refine ⟨_, .threeLow (by omega), .cons (inRange_iff.mpr ?_) (.cons (inRange_iff.mpr ?_) .nil), ?_⟩ <;>
        simp only [Pending.whole, List.foldl, UInt8.reduceToNat] <;> omega
    · refine ⟨_, .threeHigh (by omega), .cons (inRange_iff.mpr ?_) (.cons (inRange_iff.mpr ?_) .nil), ?_⟩ <;>
        simp only [Pending.whole, List.foldl, UInt8.reduceToNat] <;> omega
    · refine ⟨_, .three (by omega) (by omega) (by omega),
          .cons (inRange_iff.mpr ?_) (.cons (inRange_iff.mpr ?_) .nil), ?_⟩ <;>
        simp only [Pending.whole, List.foldl, UInt8.reduceToNat] <;> omega
  | four low high atA atB atC atD =>
    have second := show v / 262144 = 0 ∨ v / 262144 = 4 ∨ 0 < v / 262144 ∧ v / 262144 ≠ 4 by omega
    rcases second with is | is | ⟨some, other⟩
    · refine ⟨_, .fourLow (by omega),
          .cons (inRange_iff.mpr ?_) (.cons (inRange_iff.mpr ?_) (.cons (inRange_iff.mpr ?_) .nil)), ?_⟩ <;>
        simp only [Pending.whole, List.foldl, UInt8.reduceToNat] <;> omega
    · refine ⟨_, .fourHigh (by omega),
          .cons (inRange_iff.mpr ?_) (.cons (inRange_iff.mpr ?_) (.cons (inRange_iff.mpr ?_) .nil)), ?_⟩ <;>
        simp only [Pending.whole, List.foldl, UInt8.reduceToNat] <;> omega
    · refine ⟨_, .four (by omega) (by omega),
          .cons (inRange_iff.mpr ?_) (.cons (inRange_iff.mpr ?_) (.cons (inRange_iff.mpr ?_) .nil)), ?_⟩ <;>
        simp only [Pending.whole, List.foldl, UInt8.reduceToNat] <;> omega

/-- Whatever a first byte asks for makes a character with it. -/
theorem Lead.encoding {b : UInt8} {p : Pending} {tail : Bytes} (lead : Lead b p)
    (fits : List.Forall₂ InRange p.want tail) :
    (p.whole tail).isValidChar ∧ Encoding (p.whole tail) (b :: tail) := by
  cases lead <;>
    simp only [List.forall₂_cons_left_iff, List.forall₂_nil_left_iff, continuation, inRange_iff,
      UInt8.reduceToNat] at fits
  case one =>
    subst fits
    simp only [Pending.whole, List.foldl, Nat.isValidChar]
    exact ⟨by omega, .one (by omega) rfl⟩
  case two =>
    obtain ⟨b, _, range, rfl, rfl⟩ := fits
    simp only [Pending.whole, List.foldl, Nat.isValidChar]
    exact ⟨by omega, .two (by omega) (by omega) (by omega) (by omega)⟩
  case' threeLow | threeHigh | three =>
    obtain ⟨b, _, range, ⟨c, _, range', rfl, rfl⟩, rfl⟩ := fits
    simp only [Pending.whole, List.foldl, Nat.isValidChar]
    exact ⟨by omega, .three (by omega) (by omega) (by omega) (by omega) (by omega)⟩
  case' fourLow | four | fourHigh =>
    obtain ⟨b, _, range, ⟨c, _, range', ⟨d, _, range'', rfl, rfl⟩, rfl⟩, rfl⟩ := fits
    simp only [Pending.whole, List.foldl, Nat.isValidChar]
    exact ⟨by omega, .four (by omega) (by omega) (by omega) (by omega) (by omega) (by omega)⟩

theorem Lead.begun {b : UInt8} {p : Pending} (lead : Lead b p) :
    p.seen = [b] ∧ ∀ range ∈ p.want, range.1 ≤ range.2 := by
  cases lead <;> exact ⟨rfl, by simp [continuation]⟩

theorem utf8EncodeChar_lead {c : Char} {b : UInt8} {tail : Bytes} (encodes : String.utf8EncodeChar c = b :: tail) :
    ∃ p, lead? b = some p ∧ List.Forall₂ InRange p.want tail ∧ Char.ofNat (p.whole tail) = c := by
  obtain ⟨p, led, fits, whole⟩ := (utf8EncodeChar_iff.mp encodes).lead c.valid
  exact ⟨p, lead?_eq_some.mpr led, fits, by rw [whole, Char.ofNat_toNat]⟩

theorem utf8EncodeChar_of_lead {b : UInt8} {p : Pending} {tail : Bytes} (led : lead? b = some p)
    (fits : List.Forall₂ InRange p.want tail) : String.utf8EncodeChar (Char.ofNat (p.whole tail)) = b :: tail := by
  obtain ⟨valid, encoding⟩ := (lead?_eq_some.mp led).encoding fits
  have same : (Char.ofNat (p.whole tail)).toNat = p.whole tail := by
    rw [Char.ofNat, dif_pos valid]
    rfl
  exact utf8EncodeChar_iff.mpr (same.symm ▸ encoding)

end Utf8

end ClangAccess
