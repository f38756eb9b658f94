import FabricConfig.Digest.Basic
import FabricConfig.Proofs.Document.Reading
/-!
# Reading and writing once

Whoever reads a text and writes what was read has normalized it: blanks, remarks and repetitions are
gone, and whatever is read and written from then on is the same text.

* `isTileName_of_ofText`: all tiles of a document that is read have names that can be written, those
  without features, too.
* `normalize_bind_normalize`: normalizing again changes nothing.
* `ofText_toText_of_ofText`: what is read can be written and is read back, without its empty tiles,
  from a text that stays the same however often it is normalized.
-/

namespace FabricConfig

/-! ### The tiles of a reader -/

/-- All tiles of a reader have names that can be written, and so has the tile named last. -/
structure Reader.NamesTiles (reader : Reader) : Prop where
  tiles : ∀ tile ∈ reader.document.tiles, IsTileName tile
  tile : ∀ name, reader.tile = some name → IsTileName name

namespace Reader

variable {reader next : Reader}

theorem namesTiles_start : ({} : Reader).NamesTiles where
  tiles _ member := absurd member Std.ExtTreeMap.not_mem_empty
  tile := nofun

/-- An edit in a tile whose name can be written adds no other tile. -/
theorem NamesTiles.apply (names : reader.NamesTiles) {edit : Edit} (named : IsTileName edit.tile) :
    ∀ tile ∈ (reader.document.apply edit).tiles, IsTileName tile := by
  intro tile member
  rcases (Document.mem_tiles_apply reader.document edit tile).mp member with rfl | old
  · exact named
  · exact names.tiles tile old

/-- A statement adds only the tile that it names, or that was named last. -/
theorem NamesTiles.take (names : reader.NamesTiles) {statement : Statement}
    (writable : statement.IsWritable) (taken : reader.take statement = .ok next) :
    next.NamesTiles := by
  cases statement with
  | remark =>
    cases taken
    exact names
  | device name =>
    cases taken
    exact ⟨names.tiles, names.tile⟩
  | comment text =>
    cases taken
    exact ⟨names.tiles, names.tile⟩
  | tile name =>
    cases taken
    have created : ∀ other ∈ (reader.document.apply (.create name)).tiles, IsTileName other :=
      names.apply writable
    refine ⟨created, fun other same => ?_⟩
    cases same
    exact writable
  | setting kind body line =>
    rw [Reader.take] at taken
    split at taken
    · cases taken
    · rename_i name named
      obtain ⟨given, _, rfl⟩ := map_eq_ok_iff.mp taken
      exact ⟨names.apply (names.tile name named), names.tile⟩

end Reader

namespace Document

variable {document : Document} {text : String}

theorem isTileName_of_ofText (read : ofText text = .ok document) :
    ∀ tile ∈ document.tiles, IsTileName tile := by
  obtain ⟨reader, names, rfl⟩ := Reader.ofText_invariant Reader.NamesTiles Reader.namesTiles_start
    (fun _ _ _ names writable => names.take writable) read
  exact names.tiles

/-! ### Normalizing -/

/-- Reads a text and writes what is read. -/
def normalize (text : String) : Except TextError String := (ofText text).map toText

/-- Normalizes a text so many times. -/
def normalizeTimes : Nat → String → Except TextError String
  | 0, text => .ok text
  | count + 1, text => (normalize text).bind (normalizeTimes count)

/-- **What can be written is normal once it is written.** -/
theorem normalize_toText (writable : document.IsWritable) :
    normalize document.toText = .ok document.toText := by
  rw [normalize, ofText_toText_eq writable, Except.map, toText_settled]

/-- **Normalizing again changes nothing**, whatever the text is. -/
theorem normalize_bind_normalize (text : String) :
    (normalize text).bind normalize = normalize text := by
  cases normal : normalize text with
  | error problem => rfl
  | ok written =>
    obtain ⟨document, read, rfl⟩ := map_eq_ok_iff.mp normal
    rw [Except.bind, normalize_toText (isWritable_of_ofText read)]

theorem normalizeTimes_eq_ok (normal : normalize text = .ok text) (count : Nat) :
    normalizeTimes count text = .ok text := by
  induction count with
  | zero => rfl
  | succ count ih =>
    rw [normalizeTimes, normal]
    exact ih

/-- **Reading normalizes.** Whatever text a document is read from, the document can be written, and
so can the names of all its tiles. The text that is written is read back as the document without its
empty tiles, whose text and digest are the same, and stays as it is however often it is read and
written again. -/
theorem ofText_toText_of_ofText (read : ofText text = .ok document) :
    document.IsWritable ∧ (∀ tile ∈ document.tiles, IsTileName tile) ∧
      ofText document.toText = .ok document.settled ∧
      document.settled.toText = document.toText ∧
      Digest.ofText document.settled.toText = Digest.ofText document.toText ∧
      ∀ count, normalizeTimes count document.toText = .ok document.toText := by
  have writable := isWritable_of_ofText read
  have same := toText_settled document
  exact ⟨writable, isTileName_of_ofText read, ofText_toText_eq writable, same,
    congrArg Digest.ofText same, normalizeTimes_eq_ok (normalize_toText writable)⟩

/-- A text as it may be typed: indented, with tabs and carriage returns, a remark, a tile that is
named twice and one without features, and keys that are set again. -/
def typed : String :=
  "  .device  chip 1 \r\n# remark\n\t.comment  two blanks \r\r\n\n.tile R1C1:PLC\n" ++
    "\tarc:\tA0  F0 \r\n.tile R2C2:PLC\n .tile R1C1:PLC\nword: K 10\narc: A0 F1\nword: K 01"

theorem ofText_toText_typed :
    ∃ document, ofText typed = .ok document ∧ "R2C2:PLC" ∈ document.tiles ∧
      document.toText = ".device chip 1\n\n.comment  two blanks \n\n" ++
        ".tile R1C1:PLC\narc: A0 F1\nword: K 01\n\n" ∧
      document.IsWritable ∧ ofText document.toText = .ok document.settled ∧
      ∀ count, normalizeTimes count document.toText = .ok document.toText := by
  have ready : (ofText typed).toOption.map (fun document =>
      (decide ("R2C2:PLC" ∈ document.tiles), document.toText)) =
        some (true, ".device chip 1\n\n.comment  two blanks \n\n" ++
          ".tile R1C1:PLC\narc: A0 F1\nword: K 01\n\n") := by decide +kernel
  obtain ⟨document, read, both⟩ := Option.map_eq_some_iff.mp ready
  obtain ⟨present, written⟩ := Prod.mk.inj both
  have whole := ofText_toText_of_ofText (eq_ok_of_toOption read)
  exact ⟨document, eq_ok_of_toOption read, of_decide_eq_true present, written, whole.1,
    whole.2.2.1, whole.2.2.2.2.2⟩

end Document

end FabricConfig
