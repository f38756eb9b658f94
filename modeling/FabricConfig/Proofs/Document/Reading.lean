import FabricConfig.Document.Reader
import FabricConfig.Proofs.Document.RoundTrip
import FabricConfig.Proofs.Document.Writable
import FabricConfig.Proofs.Outcome
/-!
# Reading makes writable documents

A text is cut at line feeds, lines are trimmed and settings are cut at blanks, so no name or value
that is read has in it what it was cut at.

* `isWritable_of_ofFields`, `isWritable_of_ofLine`: one feature and one line.
* `Reader.IsSound.take`: what a reader has taken stays writable with each statement.
* `Reader.ofText_invariant`: what every statement keeps holds of all that is read.
* `isWritable_of_ofText`: every document that is read is writable.
* `ofText_toText_eq_self_iff`: the documents that are read back as they are.
-/

namespace FabricConfig

open Text

/-! ### Features -/

/-- **A feature that is read from fields is writable.** -/
theorem Feature.isWritable_of_ofFields {kind : String} {line : List Char}
    {texts : List (List Char)} {feature : Feature} (each : ∀ text ∈ texts, IsField text)
    (read : ofFields kind line texts = .ok feature) : feature.IsWritable := by
  have isField {text : List Char} (member : text ∈ texts) :
      IsField (String.ofList text).toList := by
    rw [String.toList_ofList]
    exact each text member
  unfold ofFields at read
  split at read
  · cases read
  split at read
  · cases read
    exact ⟨isField (by simp), isField (by simp)⟩
  · obtain ⟨bits, _, rfl⟩ := map_eq_ok_iff.mp read
    exact isField (by simp)
  · cases read
    exact isField (by simp)
  · cases read
    exact ⟨isField (by simp), isField (by simp)⟩
  · split at read
    · cases read
      trivial
    · cases read
  · split at read
    · cases read
    · cases read

/-! ### Statements -/

/-- A name that can stand after the directive for a tile. -/
def IsTileName (name : String) : Prop := name ≠ "" ∧ IsPlainName name

instance : DecidablePred IsTileName := fun _ => inferInstanceAs (Decidable (_ ∧ _))

/-- A statement that keeps a document writable. -/
def Statement.IsWritable : Statement → Prop
  | .device name => IsPlainName name
  | .comment text => IsLine text.toList
  | .tile name => IsTileName name
  | .remark | .setting _ _ _ => True

/-- The end of a line is a line. -/
theorem isLine_of_suffix {text rest : List Char} (line : IsLine text) (ends : rest <:+ text) :
    IsLine rest := by
  obtain ⟨early, rfl⟩ := ends
  refine ⟨fun feed => line.1 (List.mem_append_right _ feed), fun last => line.2 ?_⟩
  rw [List.getLast?_append, last, Option.some_or]

theorem isPlainName_trim {text : List Char} (absent : '\n' ∉ text) :
    IsPlainName (String.ofList (trim text)) := by
  rw [IsPlainName, String.toList_ofList]
  exact ⟨fun feed => absent ((trim_sublist text).subset feed), isTrimmed_trim text⟩

theorem Statement.isWritable_of_ofDirective {whole rest : List Char} {statement : Statement}
    (line : IsLine whole) (absent : '\n' ∉ rest)
    (read : ofDirective whole rest = .ok statement) : statement.IsWritable := by
  have argument : '\n' ∉ ((splitOnce? ' ' rest).getD (rest, [])).2 := by
    cases cut : splitOnce? ' ' rest with
    | none => exact List.not_mem_nil
    | some parts =>
      obtain ⟨whole, _⟩ := eq_of_splitOnce?_eq_some cut
      intro feed
      rw [whole] at absent
      exact absent (List.mem_append_right _ (List.mem_cons_of_mem _ feed))
  unfold ofDirective at read
  dsimp only at read
  split at read
  · cases read
    exact isPlainName_trim argument
  · cases read
    rw [IsWritable, String.toList_ofList]
    refine isLine_of_suffix line ?_
    cases lead : dropLead? [' '] (whole.drop ".comment".length) with
    | none => exact List.drop_suffix _ _
    | some text =>
      have tail : text <:+ whole.drop ".comment".length :=
        ⟨[' '], (dropLead?_eq_some_iff.mp lead).symm⟩
      exact tail.trans (List.drop_suffix _ _)
  · split at read
    · cases read
    · rename_i filled
      cases read
      refine ⟨fun empty => filled ?_, isPlainName_trim argument⟩
      rw [List.isEmpty_iff, ← String.toList_ofList (l := trim _), empty]
      rfl
  · cases read

/-- **A line says nothing that makes a document unwritable.** -/
theorem Statement.isWritable_of_ofLine {raw : List Char} {statement : Statement}
    (absent : '\n' ∉ raw) (read : ofLine raw = .ok statement) : statement.IsWritable := by
  have start : '\n' ∉ trimStart raw := fun feed =>
    absent ((List.dropWhile_sublist isBlank).subset feed)
  -- Carriage returns at the end go first, so no comment ends in one.
  have whole : IsLine (dropEndWhile (· == '\r') (trimStart raw)) := by
    refine ⟨fun feed => start ((prefix_dropEndWhile _ _).subset feed), fun last => ?_⟩
    exact absurd (getLast?_dropEndWhile _ _ _ last) (by decide)
  have line : '\n' ∉ trimEnd (dropEndWhile (· == '\r') (trimStart raw)) := fun feed =>
    whole.1 ((prefix_dropEndWhile _ _).subset feed)
  unfold ofLine at read
  dsimp only at read
  split at read
  · cases read
    trivial
  · cases read
    trivial
  · rename_i rest found
    rw [found] at line
    exact isWritable_of_ofDirective whole (fun feed => line (List.mem_cons_of_mem _ feed)) read
  · split at read
    · cases read
    · cases read
      trivial

/-! ### Documents -/

namespace Document

variable {document : Document}

/-- A document is writable when its name and comments are, and every feature in it. -/
theorem isWritable_iff_feature? :
    document.IsWritable ↔ IsPlainName document.deviceName ∧
      (∀ line ∈ document.metadata, IsLine line.toList) ∧
      ∀ tile slot feature, (document.settings tile).feature? slot = some feature →
        IsTileName tile ∧ feature.IsWritable := by
  constructor
  · intro writable
    refine ⟨writable.deviceName, writable.comment, fun tile slot feature found => ⟨?_, ?_⟩⟩
    · refine writable.tile tile (Bool.eq_false_iff.mpr fun empty => ?_)
      rw [TileSettings.isEmpty_iff.mp empty slot] at found
      cases found
    · refine writable.feature tile feature (TileSettings.mem_features_iff.mpr ?_)
      rw [TileSettings.slot_of_feature?_eq_some found, found]
  · rintro ⟨deviceName, comment, each⟩
    refine ⟨deviceName, comment, fun tile filled => ?_, fun tile feature inside => ?_⟩
    · have some : (document.settings tile).features ≠ [] := fun none => by
        rw [TileSettings.isEmpty_iff_features.mpr none] at filled
        cases filled
      obtain ⟨feature, inside⟩ := List.exists_mem_of_ne_nil _ some
      exact (each tile _ feature (TileSettings.mem_features_iff.mp inside)).1
    · exact (each tile _ feature (TileSettings.mem_features_iff.mp inside)).2

/-- An edit with a writable feature keeps a document writable. -/
theorem IsWritable.apply {edit : Edit} (writable : document.IsWritable)
    (sets : ∀ tile feature, edit = .set tile feature →
      IsTileName tile ∧ feature.IsWritable) : (document.apply edit).IsWritable := by
  obtain ⟨deviceName, comment, each⟩ := isWritable_iff_feature?.mp writable
  refine isWritable_iff_feature?.mpr ⟨?_, ?_, fun tile slot feature found => ?_⟩
  · rw [apply_eq]
    exact deviceName
  · rw [apply_eq]
    exact comment
  · rw [feature?_apply] at found
    rcases Option.or_eq_some_iff.mp found with put | ⟨_, old⟩
    · exact sets tile feature (Edit.feature?_eq_some_iff.mp put).1
    · exact each tile slot feature old

end Document

/-! ### Texts -/

/-- What a reader has taken is writable. -/
structure Reader.IsSound (reader : Reader) : Prop where
  document : reader.document.IsWritable
  tile : ∀ name, reader.tile = some name → IsTileName name

namespace Reader

variable {reader next : Reader}

theorem isSound_start : ({} : Reader).IsSound where
  document := by decide
  tile := nofun

/-- **What a reader has taken stays writable with each statement.** -/
theorem IsSound.take (sound : reader.IsSound) {statement : Statement}
    (writable : statement.IsWritable) (taken : reader.take statement = .ok next) :
    next.IsSound := by
  obtain ⟨deviceName, comment, tile, feature⟩ := sound.document
  cases statement with
  | remark =>
    cases taken
    exact sound
  | device name =>
    cases taken
    exact ⟨⟨writable, comment, tile, feature⟩, sound.tile⟩
  | comment text =>
    cases taken
    refine ⟨⟨deviceName, fun line member => ?_, tile, feature⟩, sound.tile⟩
    rcases List.mem_append.mp member with early | last
    · exact comment line early
    · rw [List.mem_singleton.mp last]
      exact writable
  | tile name =>
    cases taken
    have created : (reader.document.apply (.create name)).IsWritable :=
      sound.document.apply fun _ _ same => nomatch same
    refine ⟨created, fun other same => ?_⟩
    cases same
    exact writable
  | setting kind body line =>
    rw [Reader.take] at taken
    split at taken
    · cases taken
    · rename_i name named
      obtain ⟨given, read, rfl⟩ := map_eq_ok_iff.mp taken
      have fits := Feature.isWritable_of_ofFields (fun _ => isField_of_mem_fields) read
      have changed : (reader.document.apply (.set name given)).IsWritable := by
        refine sound.document.apply fun other feature same => ?_
        cases same
        exact ⟨sound.tile name named, fits⟩
      exact ⟨changed, sound.tile⟩

/-- **What every statement keeps holds after lines**, which have no line feeds in them. -/
theorem readLines_invariant (Holds : Reader → Prop)
    (kept : ∀ reader statement next, Holds reader → statement.IsWritable →
      reader.take statement = .ok next → Holds next)
    {lines : List (List Char)} (absent : ∀ line ∈ lines, '\n' ∉ line) {number : Nat}
    (read : reader.readLines number lines = .ok next) (initially : Holds reader) : Holds next := by
  induction lines generalizing reader number with
  | nil =>
    cases read
    exact initially
  | cons raw lines ih =>
    rw [Reader.readLines] at read
    split at read
    · rename_i middle taken
      obtain ⟨statement, said, took⟩ := bind_eq_ok_iff.mp taken
      have writable := Statement.isWritable_of_ofLine (absent raw List.mem_cons_self) said
      exact ih (fun line member => absent line (List.mem_cons_of_mem _ member)) read
        (kept reader statement middle initially writable took)
    · cases read

/-- What holds of the first reader, and is kept by every statement, holds of a text that is read. -/
theorem ofText_invariant (Holds : Reader → Prop) (initially : Holds {})
    (kept : ∀ reader statement next, Holds reader → statement.IsWritable →
      reader.take statement = .ok next → Holds next)
    {text : String} {document : Document} (read : Document.ofText text = .ok document) :
    ∃ reader, Holds reader ∧ reader.document = document := by
  obtain ⟨reader, lines, rfl⟩ := map_eq_ok_iff.mp read
  exact ⟨reader, readLines_invariant Holds kept (fun _ => notMem_of_mem_lines) lines initially, rfl⟩

end Reader

namespace Document

variable {document : Document}

/-- **Every document that is read is writable.** -/
theorem isWritable_of_ofText {text : String} (read : ofText text = .ok document) :
    document.IsWritable := by
  obtain ⟨reader, sound, rfl⟩ := Reader.ofText_invariant Reader.IsSound Reader.isSound_start
    (fun _ _ _ sound writable => sound.take writable) read
  exact sound.document

/-- **A document is read back as it is** just when it is writable and has no empty tiles. -/
theorem ofText_toText_eq_self_iff :
    ofText document.toText = .ok document ↔ document.IsWritable ∧ document.settled = document := by
  constructor
  · intro read
    have writable := isWritable_of_ofText read
    rw [ofText_toText_eq writable] at read
    exact ⟨writable, Except.ok.inj read⟩
  · rintro ⟨writable, same⟩
    rw [ofText_toText_eq writable, same]

end Document

end FabricConfig
