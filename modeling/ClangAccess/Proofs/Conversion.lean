import ClangAccess.Proofs.ParseStages
import ClangAccess.Proofs.Utf8Reading
import Mathlib.Data.List.TakeWhile

namespace ClangAccess

/-- A text shows some bytes: the characters in them, and one replacement character for each broken piece. -/
def Shows (s : String) (bytes : Bytes) : Prop :=
  ∃ ps, Utf8.Reading bytes ps ∧ s.toList = ps.map Utf8.Piece.shown

/-- What a caller has of a text that libclang handed out. -/
inductive TextTaken : ForeignText → String → Prop
  | null : TextTaken none ""
  | whole {bytes s} : 0 ∉ bytes → Shows s bytes → TextTaken (some bytes) s
  | cut {seen unseen s} : 0 ∉ seen → Shows s seen → TextTaken (some (seen ++ 0 :: unseen)) s

inductive PlaceTaken : Option ForeignPlace → Option SourceLocation → Prop
  | nowhere : PlaceTaken none none
  | inFile {place file} : TextTaken place.file file → PlaceTaken (some place) (some ⟨file, place.line, place.column⟩)

inductive SeverityTaken : Int → Severity → Prop
  | warning : SeverityTaken 2 .warning
  | error : SeverityTaken 3 .error
  | fatal : SeverityTaken 4 .fatal
  | note {number} : number ≠ 2 → number ≠ 3 → number ≠ 4 → SeverityTaken number .note

inductive FixItTaken : ForeignFixIt → FixIt → Prop
  | ranged {raw replacement first last} : TextTaken raw.replacement replacement →
      PlaceTaken raw.first (some first) → PlaceTaken raw.last (some last) →
      FixItTaken raw ⟨some (first, last), replacement⟩
  | loose {raw replacement} : TextTaken raw.replacement replacement → raw.first = none ∨ raw.last = none →
      FixItTaken raw ⟨none, replacement⟩

structure DiagnosticTaken (raw : ForeignDiagnostic) (d : Diagnostic) : Prop where
  severity : SeverityTaken raw.severity d.severity
  message : TextTaken raw.message d.message
  location : PlaceTaken raw.place d.location
  fixits : List.Forall₂ FixItTaken raw.fixits d.fixits

/-- An outline tells of a node and, in their order, of the nodes below it. What a kind of node is called is up to the
library. -/
inductive NodeTaken (names : Int → ForeignText) : ForeignNode → Outline → Prop
  | mk {kind spelling place inMainFile below kindName text location children} :
      TextTaken (names kind) kindName → TextTaken spelling text → PlaceTaken place location →
      List.Forall₂ (NodeTaken names) below children →
      NodeTaken names (.mk kind spelling place inMainFile below)
        (.mk kind kindName text location inMainFile children)

theorem Bytes.lossy_shows (bytes : Bytes) : Shows bytes.lossy bytes :=
  ⟨Utf8.pieces bytes, Utf8.pieces_reading bytes, String.toList_ofList⟩

theorem ForeignText.decoded_taken (text : ForeignText) : TextTaken text text.decoded := by
  cases text with
  | none => exact .null
  | some bytes =>
    let seen := bytes.takeWhile (· ≠ 0)
    have split : bytes = seen ++ bytes.dropWhile (· ≠ 0) := List.takeWhile_append_dropWhile.symm
    have within : 0 ∉ seen := by
      intro member
      simpa using List.mem_takeWhile_imp member
    have shows : Shows (ForeignText.decoded (some bytes)) seen := Bytes.lossy_shows seen
    cases unseen : bytes.dropWhile (· ≠ 0) with
    | nil =>
      rw [unseen, List.append_nil] at split
      rw [← split] at within shows
      exact .whole within shows
    | cons b rest =>
      have stop := List.head?_dropWhile_not (· ≠ 0) bytes
      rw [unseen, List.head?_cons] at stop
      have zero : b = 0 := by simpa using stop
      rw [unseen, zero] at split
      generalize decoded : ForeignText.decoded (some bytes) = s at shows
      rw [split]
      exact .cut within shows

theorem ForeignPlace.decoded_taken (place : Option ForeignPlace) :
    PlaceTaken place (place.map ForeignPlace.decoded) := by
  cases place with
  | none => exact .nowhere
  | some p => exact .inFile p.file.decoded_taken

theorem Library.severity_taken (number : Int) : SeverityTaken number (severity number) := by
  unfold severity
  split
  · exact .warning
  · exact .error
  · exact .fatal
  · rename_i two three four
    exact .note two three four

theorem ForeignFixIt.decoded_taken (raw : ForeignFixIt) : FixItTaken raw raw.decoded := by
  obtain ⟨replacement, first, last⟩ := raw
  have text := replacement.decoded_taken
  cases first with
  | none => exact .loose text (Or.inl rfl)
  | some a =>
    cases last with
    | none => exact .loose text (Or.inr rfl)
    | some b => exact .ranged text (ForeignPlace.decoded_taken (some a)) (ForeignPlace.decoded_taken (some b))

theorem ForeignDiagnostic.decoded_taken (raw : ForeignDiagnostic) : DiagnosticTaken raw raw.decoded where
  severity := Library.severity_taken raw.severity
  message := raw.message.decoded_taken
  location := ForeignPlace.decoded_taken raw.place
  fixits := List.forall₂_map_right_iff.mpr (List.forall₂_same.mpr fun f _ => f.decoded_taken)

theorem ForeignDiagnostic.map_decoded_taken (raws : List ForeignDiagnostic) :
    List.Forall₂ DiagnosticTaken raws (raws.map ForeignDiagnostic.decoded) :=
  List.forall₂_map_right_iff.mpr (List.forall₂_same.mpr fun raw _ => raw.decoded_taken)

theorem SeverityTaken.isError_iff {number : Int} {s : Severity} (taken : SeverityTaken number s) :
    s.isError = true ↔ number = 3 ∨ number = 4 := by
  cases taken with
  | warning | error | fatal => decide
  | note two three four => simp [Severity.isError, three, four]

theorem anyError_iff {raws : List ForeignDiagnostic} {diagnostics : List Diagnostic}
    (taken : List.Forall₂ DiagnosticTaken raws diagnostics) :
    anyError diagnostics = true ↔ ∃ raw ∈ raws, raw.severity = 3 ∨ raw.severity = 4 := by
  induction taken with
  | nil => simp [anyError]
  | @cons raw d raws diagnostics first _ ih =>
    have split : anyError (d :: diagnostics) = (d.severity.isError || anyError diagnostics) := List.any_cons
    rw [split, Bool.or_eq_true, ih, first.severity.isError_iff]
    simp only [List.mem_cons, exists_eq_or_imp]

namespace ForeignNode

theorem height_pos (node : ForeignNode) : 0 < node.height := by
  obtain ⟨kind, spelling, place, inMainFile, below⟩ := node
  rw [height]
  exact Nat.succ_pos _

theorem height_le_heights {node : ForeignNode} {nodes : List ForeignNode} (member : node ∈ nodes) :
    node.height ≤ heights nodes := by
  induction nodes with
  | nil => exact absurd member List.not_mem_nil
  | cons first rest ih =>
    rw [heights]
    rcases List.mem_cons.mp member with rfl | later
    · exact Nat.le_max_left _ _
    · exact (ih later).trans (Nat.le_max_right _ _)

theorem heights_children (node : ForeignNode) : heights node.children + 1 = node.height := by
  obtain ⟨kind, spelling, place, inMainFile, below⟩ := node
  rw [height]
  rfl

end ForeignNode

theorem NodeTaken.of_children {names : Int → ForeignText} (node : ForeignNode) {children : List Outline}
    (taken : List.Forall₂ (NodeTaken names) node.children children) :
    NodeTaken names node
      (.mk node.kind (names node.kind).decoded node.spelling.decoded (node.place.map ForeignPlace.decoded)
        node.inMainFile children) := by
  obtain ⟨kind, spelling, place, inMainFile, below⟩ := node
  exact .mk (names kind).decoded_taken spelling.decoded_taken (ForeignPlace.decoded_taken place) taken

namespace Usage.Clean

variable {library unit : Nat}

/-- Work on some items one by one, each of which has a result that is related to it. -/
theorem mapM_related {α β : Type} {items : List α} {work : α → Usage β} {related : α → β → Prop}
    (each : ∀ item ∈ items, ∃ value, (work item).Clean library unit value ∧ related item value) :
    ∃ values, (items.mapM work).Clean library unit values ∧ List.Forall₂ related items values := by
  induction items with
  | nil => exact ⟨[], pure _, .nil⟩
  | cons item rest ih =>
    obtain ⟨value, first, here⟩ := each item (List.mem_cons_self ..)
    obtain ⟨values, later, there⟩ := ih fun i member => each i (List.mem_cons_of_mem _ member)
    refine ⟨value :: values, ?_, .cons here there⟩
    rw [List.mapM_cons]
    exact first.bind (later.bind (pure _))

theorem outline_node (e : Entity) {rest : Usage (List Outline)} {children : List Outline}
    (below : rest.Clean e.library.number e.unit children) :
    (do let kind ← e.kind
        let kindName ← e.kindName
        let spelling ← e.spelling
        let location ← e.location
        let inMainFile ← e.isInMainFile
        let children ← rest
        return Outline.mk kind kindName spelling location inMainFile children).Clean e.library.number e.unit
      (.mk e.node.kind (e.library.kindName e.node.kind).decoded e.node.spelling.decoded
        (e.node.place.map ForeignPlace.decoded) e.node.inMainFile children) :=
  (kind e).bind <| (kindName e).bind <| (spelling e).bind <| (location e).bind <| (isInMainFile e).bind <|
    below.bind (pure _)

/-- An outline that goes deep enough tells of the whole tree below a node. -/
theorem outline (depth : Nat) (e : Entity) (deep : e.node.height ≤ depth + 1) :
    ∃ outlined, (e.outline depth).Clean e.library.number e.unit outlined ∧
      NodeTaken e.library.kindName e.node outlined := by
  induction depth generalizing e with
  | zero =>
    -- With no level left to go down there can be nothing below.
    have leaf : e.node.children = [] := by
      refine List.eq_nil_iff_forall_not_mem.mpr fun child member => ?_
      have level := child.height_pos
      have fits := ForeignNode.height_le_heights member
      have whole := e.node.heights_children
      omega
    refine ⟨_, outline_node e (pure []), NodeTaken.of_children e.node ?_⟩
    rw [leaf]
    exact .nil
  | succ below ih =>
    have each : ∀ child ∈ e.node.children.map fun n => { e with node := n },
        ∃ outlined, (child.outline below).Clean e.library.number e.unit outlined ∧
          NodeTaken e.library.kindName child.node outlined := by
      intro child member
      obtain ⟨node, direct, rfl⟩ := List.mem_map.mp member
      have fits := ForeignNode.height_le_heights direct
      have whole := e.node.heights_children
      exact ih { e with node } (show node.height ≤ below + 1 by omega)
    obtain ⟨outlines, run, taken⟩ := mapM_related each
    rw [List.forall₂_map_left_iff] at taken
    exact ⟨_, outline_node e ((children e).bind run), NodeTaken.of_children e.node taken⟩

theorem unitOutline (u : ParsedUnit) :
    ∃ outlined, u.outline.Clean u.library.number u.unit outlined ∧
      NodeTaken u.library.kindName u.rootNode outlined := by
  have deep : u.rootNode.height ≤ u.rootNode.height + 1 := Nat.le_succ _
  obtain ⟨outlined, run, taken⟩ := outline u.rootNode.height ⟨u.library, u.unit, u.rootNode⟩ deep
  exact ⟨outlined, (root u).bind run, taken⟩

end Usage.Clean

/-- A unit has all that libclang handed over, each thing once and in its place, at any time that it is asked, and calls
the kinds of nodes by libclang's names. -/
structure ParsedUnit.Has (u : ParsedUnit) (names : Int → ForeignText) (content : ForeignUnit) : Prop where
  diagnostics : List.Forall₂ DiagnosticTaken content.diagnostics u.diagnostics
  hasErrors : u.hasErrors = true ↔ ∃ raw ∈ content.diagnostics, raw.severity = 3 ∨ raw.severity = 4
  tree : ∀ ledger : Ledger, NodeTaken names content.root (u.outline.run ledger).1

/-- A unit that libclang hands over comes through whole. -/
theorem handed_over_unit_comes_whole (view : FileView) (backend : Backend) (file : Path) (args : List String)
    (options : ParseOptions) (p : Process) (library : Library) (content : ForeignUnit)
    (present : view.isFile file = true) (opened : p.opening view backend = .ok library)
    (clean : ∀ arg ∈ args, 0 ∉ Bytes.ofText arg) (given : library.givesNoIndex = false)
    (reply : view.reply file = ⟨0, some content⟩) :
    ∃ u q, (Session.parse view backend file args options).run.run p = (.ok u, q) ∧
      u.Has library.kindName content := by
  obtain ⟨result, q, acquired, rest, run, _, _, _, outcome⟩ :=
    Session.parse_outcome view backend file args options p
  rw [opened] at outcome
  cases outcome with
  | absent gone => exact nomatch present.symm.trans gone
  | unopened _ failed => exact nomatch failed
  | nulArgument _ _ nul =>
    obtain ⟨before, arg, after, head, tail, split, _, bytes, _⟩ := nul
    have member : arg ∈ args := split ▸ List.mem_append_right before (List.mem_cons_self ..)
    have zero : 0 ∈ Bytes.ofText arg := bytes ▸ List.mem_append_right head (List.mem_cons_self ..)
    exact absurd zero (clean arg member)
  | noIndex _ same _ null =>
    cases same
    exact nomatch given.symm.trans null
  | noUnit _ _ _ _ other => exact nomatch congrArg ForeignReply.unit (reply.symm.trans other)
  | failed _ _ _ _ other failure => exact absurd (congrArg ForeignReply.code (reply.symm.trans other)).symm failure
  | parsed _ same _ _ other _ =>
    cases same
    obtain rfl := Option.some.inj (congrArg ForeignReply.unit (reply.symm.trans other))
    refine ⟨_, q, run, ?_⟩
    have taken := ForeignDiagnostic.map_decoded_taken content.diagnostics
    refine ⟨taken, anyError_iff taken, fun ledger => ?_⟩
    obtain ⟨outlined, walk, whole⟩ := Usage.Clean.unitOutline
      { library, index := _, unit := _, rootNode := content.root, file, diagnostics := _ }
    obtain ⟨later, entries, ran, _⟩ := walk ledger
    rw [ran]
    exact whole

/-- A unit with a severity of no meaning, broken and cut-off texts, an edit with one end and a tree of two levels. -/
def roughUnit : ForeignUnit where
  diagnostics :=
    [⟨7, some [0x61, 0xE2, 0x82, 0x00, 0x62], some ⟨none, 3, 4⟩, [⟨some [], some ⟨none, 1, 2⟩, none⟩]⟩,
      ⟨4, none, none, []⟩]
  root := .mk 350 none none false [.mk 8 (some [0x66]) (some ⟨some [0x61], 1, 5⟩) true [.mk 99 none none true []]]

/-- A library with a name of broken bytes, a cut-off name, and no other. -/
def roughLibrary : Library := ⟨0, false, roughNames⟩
where
  roughNames (kind : Int) : ForeignText :=
    if kind = 8 then some [0x46, 0xFF] else if kind = 99 then some [0x4D, 0x00, 0x4E] else none

def roughFile : FileView where
  isFile := oneFile.isFile
  canonical? := oneFile.canonical?
  library _ := .ok ⟨0, [], false, roughLibrary.kindName⟩
  missingText := oneFile.missingText
  reply _ := ⟨0, some roughUnit⟩
  nulFree := oneFile.nulFree

theorem rough_unit_comes_whole :
    roughFile.isFile ⟨[0x61]⟩ = true ∧ Process.opening {} roughFile ⟨0, ⟨[0x62]⟩⟩ = .ok roughLibrary ∧
      (∀ arg ∈ ["-DA"], 0 ∉ Bytes.ofText arg) ∧ roughLibrary.givesNoIndex = false ∧
      roughFile.reply ⟨[0x61]⟩ = ⟨0, some roughUnit⟩ ∧
      ∃ u q, (Session.parse roughFile ⟨0, ⟨[0x62]⟩⟩ ⟨[0x61]⟩ ["-DA"] ⟨0⟩).run.run {} = (.ok u, q) ∧
        u.Has roughLibrary.kindName roughUnit := by
  have clean : ∀ arg ∈ ["-DA"], 0 ∉ Bytes.ofText arg := by decide
  refine ⟨rfl, rfl, clean, rfl, rfl, ?_⟩
  exact handed_over_unit_comes_whole roughFile ⟨0, ⟨[0x62]⟩⟩ ⟨[0x61]⟩ ["-DA"] ⟨0⟩ {} roughLibrary roughUnit rfl rfl
    clean rfl rfl

end ClangAccess
