import ClangAccess.Proofs.Utf8Encoding

namespace ClangAccess

namespace Utf8

namespace Pending

variable {p : Pending} {b : UInt8} {range : UInt8 × UInt8} {more : List (UInt8 × UInt8)}

theorem settle_wanting (wants : p.want = range :: more) : p.settle = ([], p) := by
  simp [settle, wants]

theorem whole_cons (seen : Bytes) (tail : Bytes) :
    p.whole (b :: tail) = whole ⟨seen ++ [b], p.bits * 64 + (b.toNat - 0x80), more⟩ tail := by
  simp only [whole, List.foldl_cons]

theorem feed_fitting (wants : p.want = range :: more) (fits : InRange range b) :
    p.feed b = settle ⟨p.seen ++ [b], p.bits * 64 + (b.toNat - 0x80), more⟩ := by
  simp only [feed, wants, fits.1, fits.2, decide_true, Bool.and_self, if_true]

theorem feed_misfit (wants : p.want = range :: more) (misfit : ¬InRange range b) :
    p.feed b = (.broken p.seen :: (start b).1, (start b).2) := by
  have no : ¬(decide (range.1 ≤ b) && decide (b ≤ range.2)) = true := by
    rwa [Bool.and_eq_true, decide_eq_true_eq, decide_eq_true_eq]
  simp only [feed, wants, if_neg no]

end Pending

/-- A sequence that gets all that it wants ends in a character. -/
theorem scan_completed {p : Pending} {tail : Bytes} (rest : Bytes) (fits : List.Forall₂ InRange p.want tail) :
    p.settle.1 ++ scan p.settle.2 (tail ++ rest) = .char (Char.ofNat (p.whole tail)) :: scan .idle rest := by
  induction tail generalizing p with
  | nil =>
    have done := List.forall₂_nil_right_iff.mp fits
    simp [Pending.settle, done, Pending.whole]
  | cons b tail ih =>
    obtain ⟨range, more, here, later, wants⟩ := List.forall₂_cons_right_iff.mp fits
    have wants : p.want = range :: more := wants
    rw [Pending.settle_wanting wants]
    change (p.feed b).1 ++ scan (p.feed b).2 (tail ++ rest) = _
    rw [Pending.feed_fitting wants here, Pending.whole_cons p.seen]
    exact ih later

/-- A sequence that does not get what it wants next is broken there. -/
theorem scan_cut {p : Pending} {front rest : Bytes} {range : UInt8 × UInt8} {fitting later : List (UInt8 × UInt8)}
    (begun : p.seen ≠ []) (wants : p.want = fitting ++ range :: later) (fits : List.Forall₂ InRange fitting front)
    (stops : ∀ b ∈ rest.head?, ¬InRange range b) :
    p.settle.1 ++ scan p.settle.2 (front ++ rest) = .broken (p.seen ++ front) :: scan .idle rest := by
  induction fits generalizing p with
  | nil =>
    rw [Pending.settle_wanting wants, List.append_nil]
    cases rest with
    | nil => simp [scan, begun, Pending.idle]
    | cons b rest =>
      change (p.feed b).1 ++ scan (p.feed b).2 rest = _
      rw [Pending.feed_misfit wants (stops b rfl)]
      rfl
  | @cons first b fitting front here _ ih =>
    rw [Pending.settle_wanting wants]
    change (p.feed b).1 ++ scan (p.feed b).2 (front ++ rest) = _
    rw [Pending.feed_fitting wants here, ih (by simp) rfl, List.append_assoc, List.singleton_append]

/-- Some bytes are the beginning of a character, or all of it. -/
def Begins (bytes : Bytes) : Prop :=
  ∃ c, bytes <+: String.utf8EncodeChar c

theorem Begins.of_prefix {front bytes : Bytes} (begins : Begins bytes) (part : front <+: bytes) : Begins front :=
  begins.imp fun _ whole => part.trans whole

/-- How a reader of UTF-8 takes some bytes apart. Where no character starts, the bytes that could still have
become one are broken off together, or a single byte if there are none such. -/
inductive Reading : Bytes → List Piece → Prop
  | nil : Reading [] []
  | char {c rest more} : Reading rest more → Reading (String.utf8EncodeChar c ++ rest) (.char c :: more)
  | broken {bytes rest more} : bytes ≠ [] → (∀ c, ¬String.utf8EncodeChar c <+: bytes ++ rest) →
      (Begins bytes ∨ bytes.length = 1) → (∀ b ∈ rest.head?, ¬Begins (bytes ++ [b])) → Reading rest more →
      Reading (bytes ++ rest) (.broken bytes :: more)

theorem pieces_char (c : Char) (rest : Bytes) :
    pieces (String.utf8EncodeChar c ++ rest) = .char c :: pieces rest := by
  cases encodes : String.utf8EncodeChar c with
  | nil => exact absurd encodes String.utf8EncodeChar_ne_nil
  | cons b tail =>
    obtain ⟨p, led, fits, whole⟩ := utf8EncodeChar_lead encodes
    change (start b).1 ++ scan (start b).2 (tail ++ rest) = _
    simp only [start, led]
    rw [scan_completed rest fits, whole]
    rfl

theorem pieces_flatMap (chars : List Char) : pieces (chars.flatMap String.utf8EncodeChar) = chars.map Piece.char := by
  induction chars with
  | nil => rfl
  | cons c chars ih => rw [List.flatMap_cons, pieces_char, ih, List.map_cons]

theorem begins_iff {b : UInt8} {p : Pending} (led : lead? b = some p) {front : Bytes} :
    Begins (b :: front) ↔ ∃ fitting later, p.want = fitting ++ later ∧ List.Forall₂ InRange fitting front := by
  constructor
  · rintro ⟨c, tail, encodes⟩
    obtain ⟨p', led', fits, -⟩ := utf8EncodeChar_lead encodes.symm
    obtain rfl : p' = p := Option.some.inj (led'.symm.trans led)
    exact ⟨_, _, (List.take_append_drop front.length p'.want).symm, List.forall₂_take_append _ _ _ fits⟩
  · rintro ⟨fitting, later, wants, fits⟩
    -- The lowest byte of each range still wanted makes up the rest of a character.
    have lowest : List.Forall₂ InRange later (later.map Prod.fst) := by
      refine List.forall₂_map_right_iff.mpr (List.forall₂_same.mpr fun range member => ⟨UInt8.le_refl _, ?_⟩)
      exact (lead?_eq_some.mp led).begun.2 range (wants ▸ List.mem_append_right fitting member)
    have completed : List.Forall₂ InRange p.want (front ++ later.map Prod.fst) :=
      wants ▸ List.rel_append fits lowest
    have whole := utf8EncodeChar_of_lead led completed
    exact ⟨_, _, whole.symm⟩

theorem begins_single_iff {b : UInt8} : Begins [b] ↔ (lead? b).isSome := by
  cases led : lead? b with
  | none =>
    refine iff_of_false ?_ Bool.false_ne_true
    rintro ⟨c, tail, encodes⟩
    obtain ⟨p, led', -⟩ := utf8EncodeChar_lead encodes.symm
    exact nomatch led.symm.trans led'
  | some p => exact iff_of_true ((begins_iff led).mpr ⟨[], p.want, rfl, .nil⟩) rfl

theorem pieces_broken {bytes rest : Bytes} (some : bytes ≠ [])
    (none : ∀ c, ¬String.utf8EncodeChar c <+: bytes ++ rest) (could : Begins bytes ∨ bytes.length = 1)
    (stops : ∀ b ∈ rest.head?, ¬Begins (bytes ++ [b])) :
    pieces (bytes ++ rest) = .broken bytes :: pieces rest := by
  obtain ⟨b, front, rfl⟩ := List.exists_cons_of_ne_nil some
  change (start b).1 ++ scan (start b).2 (front ++ rest) = _
  cases led : lead? b with
  | none =>
    have single : front = [] := by
      rcases could with begins | single
      · have first : Begins [b] := begins.of_prefix (List.prefix_append [b] front)
        exact absurd (begins_single_iff.mp first) (by simp [led])
      · simpa using single
    subst single
    simp only [start, led]
    rfl
  | some p =>
    have begins : Begins (b :: front) := by
      refine could.elim id fun single => ?_
      obtain rfl : front = [] := by simpa using single
      exact begins_single_iff.mpr (by rw [led]; rfl)
    obtain ⟨fitting, later, wants, fits⟩ := (begins_iff led).mp begins
    cases later with
    | nil =>
      rw [List.append_nil] at wants
      have whole := utf8EncodeChar_of_lead led (wants ▸ fits)
      exact absurd (whole ▸ List.prefix_append (b :: front) rest) (none (Char.ofNat (p.whole front)))
    | cons range later =>
      have cut : ∀ next ∈ rest.head?, ¬InRange range next := by
        intro next member here
        refine stops next member ((begins_iff led).mpr ⟨fitting ++ [range], later, ?_, ?_⟩)
        · rw [wants, List.append_assoc, List.singleton_append]
        · exact List.rel_append fits (.cons here .nil)
      obtain ⟨seen, -⟩ := (lead?_eq_some.mp led).begun
      simp only [start, led]
      rw [scan_cut (by simp [seen]) wants fits cut, seen]
      rfl

/-- There is at most one way to take some bytes apart, and the pieces are that. -/
theorem Reading.pieces {bytes : Bytes} {ps : List Piece} (reading : Reading bytes ps) : pieces bytes = ps := by
  induction reading with
  | nil => rfl
  | char _ ih => rw [pieces_char, ih]
  | broken some none could stops _ ih => rw [pieces_broken some none could stops, ih]

theorem exists_longest_beginning (bytes : Bytes) :
    ∃ front rest, bytes = front ++ rest ∧ Begins front ∧ ∀ b ∈ rest.head?, ¬Begins (front ++ [b]) := by
  suffices grown : ∀ front rest : Bytes, Begins front → ∃ more left, rest = more ++ left ∧ Begins (front ++ more) ∧
      ∀ b ∈ left.head?, ¬Begins (front ++ more ++ [b]) from grown [] bytes ⟨'a', List.nil_prefix⟩
  intro front rest begins
  induction rest generalizing front with
  | nil => exact ⟨[], [], rfl, by rwa [List.append_nil], nofun⟩
  | cons b rest ih =>
    by_cases longer : Begins (front ++ [b])
    · obtain ⟨more, left, split, whole, stops⟩ := ih (front ++ [b]) longer
      rw [List.append_assoc, List.singleton_append] at whole stops
      exact ⟨b :: more, left, congrArg _ split, whole, stops⟩
    · refine ⟨[], b :: rest, rfl, by rwa [List.append_nil], fun c first => ?_⟩
      rw [List.append_nil, ← Option.some.inj first]
      exact longer

theorem exists_broken {bytes : Bytes} (some : bytes ≠ []) :
    ∃ front rest, bytes = front ++ rest ∧ front ≠ [] ∧ (Begins front ∨ front.length = 1) ∧
      ∀ b ∈ rest.head?, ¬Begins (front ++ [b]) := by
  obtain ⟨front, rest, split, begins, stops⟩ := exists_longest_beginning bytes
  cases front with
  | cons b front => exact ⟨b :: front, rest, split, List.cons_ne_nil _ _, Or.inl begins, stops⟩
  | nil =>
    obtain ⟨b, rest, rfl⟩ := List.exists_cons_of_ne_nil (split ▸ some)
    have first := stops b rfl
    refine ⟨[b], rest, split, List.cons_ne_nil _ _, Or.inr rfl, fun c _ begins => first ?_⟩
    exact begins.of_prefix (List.prefix_append [b] [c])

theorem exists_reading (bytes : Bytes) : ∃ ps, Reading bytes ps := by
  induction size : bytes.length using Nat.strongRecOn generalizing bytes with
  | ind n ih =>
    subst size
    by_cases empty : bytes = []
    · exact ⟨[], empty ▸ .nil⟩
    · by_cases whole : ∃ c, String.utf8EncodeChar c <+: bytes
      · obtain ⟨c, rest, rfl⟩ := whole
        have shorter : rest.length < (String.utf8EncodeChar c ++ rest).length := by
          rw [List.length_append, String.length_utf8EncodeChar]
          exact Nat.lt_add_of_pos_left (Char.utf8Size_pos c)
        obtain ⟨ps, reading⟩ := ih _ shorter rest rfl
        exact ⟨_, .char reading⟩
      · obtain ⟨front, rest, rfl, some, could, stops⟩ := exists_broken empty
        have shorter : rest.length < (front ++ rest).length := by
          rw [List.length_append]
          exact Nat.lt_add_of_pos_left (List.length_pos_iff.mpr some)
        obtain ⟨ps, reading⟩ := ih _ shorter rest rfl
        exact ⟨_, .broken some (not_exists.mp whole) could stops reading⟩

/-- The pieces of some bytes are what a reader takes them apart into. -/
theorem pieces_reading (bytes : Bytes) : Reading bytes (pieces bytes) := by
  obtain ⟨ps, reading⟩ := exists_reading bytes
  rwa [reading.pieces]

example : pieces [0xE2, 0x82, 0xFF, 0x61] = [.broken [0xE2, 0x82], .broken [0xFF], .char 'a'] := by decide

end Utf8

end ClangAccess
