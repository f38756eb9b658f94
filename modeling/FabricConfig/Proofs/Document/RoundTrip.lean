import FabricConfig.Document.Reader
import FabricConfig.Proofs.Document.Writable
/-!
# Reading back a written document

Each line that the writer makes is read as the statement it was made from, so reading a written
document makes its tiles anew.

* `ofLine_line`, `ofFields_texts`: a feature's line is read as the feature.
* `ofLine_directive`: a directive is read from its word and its argument.
* `readLines_lines`: what reading the lines of a writable document gives.
* `ofText_toText_eq`: the text of a writable document is read as the document without its empty
  tiles.
* `ofText_toText_and_toText_injective`: the same, and that equal texts come from documents that
  are equal up to empty tiles.
-/

namespace FabricConfig

open Text

/-! ### Features -/

namespace Feature

/-- The digits of a word are read as the word. -/
theorem readDigits_digits (blamed : String) (bits : Bits) :
    readDigits blamed (Bits.digits bits) = .ok bits := by
  induction bits with
  | nil => rfl
  | cons bit bits ih =>
    cases bit
    · show (readDigits blamed (Bits.digits bits)).map (false :: ·) = _
      rw [ih]
      rfl
    · show (readDigits blamed (Bits.digits bits)).map (true :: ·) = _
      rw [ih]
      rfl

/-- A written raw bit is read back. -/
theorem readRawBit?_text (bit : RawBit) : readRawBit? bit.text = some bit := by
  have noLetter : 'B' ∉ decimal bit.frame.toNat := fun member =>
    absurd (isDigit_of_mem_decimal member) (by decide)
  have lead : dropLead? ['F'] bit.text =
      some (decimal bit.frame.toNat ++ 'B' :: decimal bit.bit.toNat) :=
    dropLead?_eq_some_iff.mpr rfl
  simp only [readRawBit?, lead, splitOnce?_append noLetter, uint32?_decimal, Option.bind_eq_bind,
    Option.bind_some, Option.pure_def]

/-- **The fields of a feature are read as the feature.** -/
theorem ofFields_texts (feature : Feature) (line : List Char) :
    ofFields feature.kind line feature.texts = .ok feature := by
  match feature with
  | .arc sink source =>
    show Except.ok (arc (String.ofList sink.toList) (String.ofList source.toList)) = _
    rw [String.ofList_toList, String.ofList_toList]
  | .word name [] =>
    show Except.ok (word (String.ofList name.toList) []) = _
    rw [String.ofList_toList]
  | .word name (bit :: bits) =>
    show (readDigits (String.ofList (Bits.digits (bit :: bits)).reverse)
      (Bits.digits (bit :: bits)).reverse.reverse).map (word (String.ofList name.toList)) = _
    rw [List.reverse_reverse, readDigits_digits, String.ofList_toList]
    rfl
  | .enum name value =>
    show Except.ok (enum (String.ofList name.toList) (String.ofList value.toList)) = _
    rw [String.ofList_toList, String.ofList_toList]
  | .raw bit =>
    simp [ofFields, kind, texts, readRawBit?_text]

end Feature

/-! ### Statements -/

namespace Statement

/-- A line of settings is read from its kind and what follows the colon. -/
theorem ofLine_setting {kind body : List Char} (field : IsField kind) (colon : ':' ∉ kind)
    (noRemark : kind.head? ≠ some '#') (noDirective : kind.head? ≠ some '.')
    (trimmed : IsTrimmed (kind ++ ':' :: body)) :
    ofLine (kind ++ ':' :: body) =
      .ok (.setting (String.ofList kind) body (kind ++ ':' :: body)) := by
  have noReturn : dropEndWhile (· == '\r') (trimStart (kind ++ ':' :: body)) =
      kind ++ ':' :: body := by
    rw [trimmed.trimStart_eq]
    refine dropEndWhile_eq_self fun c last => ?_
    simpa using fun same : c = '\r' => trimmed.getLast?_ne (same ▸ last)
  unfold ofLine
  simp only [noReturn, trimmed.trimEnd_eq]
  obtain ⟨first, rest, rfl⟩ := List.exists_cons_of_ne_nil field.1
  split
  · rename_i empty
    simp at empty
  · rename_i found
    simp_all
  · rename_i found
    simp_all
  · rw [splitOnce?_append colon]

/-- **The line of a writable feature is read as its setting.** -/
theorem ofLine_line {feature : Feature} (writable : feature.IsWritable) :
    ofLine feature.line =
      .ok (.setting feature.kind (feature.texts.flatMap (' ' :: ·)) feature.line) := by
  have kind : ∀ kind ∈ Feature.kinds, IsField kind.toList ∧ ':' ∉ kind.toList ∧
      kind.toList.head? ≠ some '#' ∧ kind.toList.head? ≠ some '.' := by decide
  obtain ⟨field, colon, noRemark, noDirective⟩ := kind _ feature.kind_mem_kinds
  have trimmed := writable.isTrimmed_line
  rw [Feature.line_eq] at trimmed ⊢
  rw [ofLine_setting field colon noRemark noDirective trimmed, String.ofList_toList]

/-- **A directive is read from its word and its argument.** The whole line is kept for comments. -/
theorem ofLine_directive (word : List Char) {argument : List Char} (field : IsField word)
    (noReturn : argument.getLast? ≠ some '\r') :
    ofLine ('.' :: word ++ ' ' :: argument) =
      match String.ofList word with
      | "device" => .ok (.device (String.ofList (trim (trimEnd argument))))
      | "comment" =>
        let text := ('.' :: word ++ ' ' :: argument).drop ".comment".length
        .ok (.comment (String.ofList ((dropLead? [' '] text).getD text)))
      | "tile" =>
        let name := trim (trimEnd argument)
        if name.isEmpty then .error .missingTileName else .ok (.tile (String.ofList name))
      | other => .error (.unknownDirective other) := by
  have start : trimStart ('.' :: word ++ ' ' :: argument) = '.' :: word ++ ' ' :: argument :=
    dropWhile_eq_self fun c first => by
      obtain rfl : '.' = c := by simpa using first
      rfl
  have whole : dropEndWhile (· == '\r') ('.' :: word ++ ' ' :: argument) =
      '.' :: word ++ ' ' :: argument := by
    refine dropEndWhile_eq_self fun c last => ?_
    rw [List.getLast?_append, List.getLast?_cons, Option.some_or] at last
    cases final : argument.getLast? with
    | none =>
      obtain rfl : ' ' = c := by simpa [final] using last
      rfl
    | some other =>
      obtain rfl : other = c := by simpa [final] using last
      simpa using fun same : other = '\r' => noReturn (same ▸ final)
  have solid : ∀ c ∈ ('.' :: word).getLast?, isBlank c = false := fun c last => by
    rw [List.getLast?_cons] at last
    cases final : word.getLast? with
    | none => exact absurd (List.getLast?_eq_none_iff.mp final) field.1
    | some other =>
      obtain rfl : other = c := by simpa [final] using last
      exact field.2 other (List.mem_of_mem_getLast? final)
  have line : trimEnd ('.' :: word ++ ' ' :: argument) =
      '.' :: (word ++ trimEnd (' ' :: argument)) := trimEnd_append solid _
  have cut : (splitOnce? ' ' (word ++ trimEnd (' ' :: argument))).getD
      (word ++ trimEnd (' ' :: argument), []) = (word, trimEnd argument) := by
    have noBlank : ' ' ∉ word := field.notMem (by decide)
    rw [trimEnd_cons (by decide)]
    split
    · rename_i gone
      rw [List.append_nil, splitOnce?_eq_none noBlank, gone]
      rfl
    · rw [splitOnce?_append noBlank]
      rfl
  unfold ofLine
  simp only [start, whole, line]
  unfold ofDirective
  generalize parts : (splitOnce? ' ' (word ++ trimEnd (' ' :: argument))).getD
    (word ++ trimEnd (' ' :: argument), []) = cutParts
  obtain rfl := parts.symm.trans cut
  rfl

theorem ofLine_device {name : String} (plain : IsPlainName name) :
    ofLine (".device ".toList ++ name.toList) = .ok (.device name) := by
  refine (ofLine_directive ['d', 'e', 'v', 'i', 'c', 'e'] (by decide)
    plain.2.getLast?_ne).trans ?_
  show Except.ok (device (String.ofList (trim (trimEnd name.toList)))) = _
  rw [plain.2.trimEnd_eq, plain.2.trim_eq, String.ofList_toList]

theorem ofLine_comment {text : String} (line : IsLine text.toList) :
    ofLine (".comment ".toList ++ text.toList) = .ok (.comment text) := by
  refine (ofLine_directive ['c', 'o', 'm', 'm', 'e', 'n', 't'] (by decide)
    line.2).trans ?_
  have argument : dropLead? [' '] (' ' :: text.toList) = some text.toList :=
    dropLead?_eq_some_iff.mpr rfl
  show Except.ok (comment (String.ofList
    ((dropLead? [' '] (' ' :: text.toList)).getD (' ' :: text.toList)))) = _
  rw [argument, Option.getD_some, String.ofList_toList]

theorem ofLine_tile {name : String} (nonempty : name ≠ "") (plain : IsPlainName name) :
    ofLine (".tile ".toList ++ name.toList) = .ok (.tile name) := by
  refine (ofLine_directive ['t', 'i', 'l', 'e'] (by decide)
    plain.2.getLast?_ne).trans ?_
  show (if (trim (trimEnd name.toList)).isEmpty then Except.error LineProblem.missingTileName
    else .ok (tile (String.ofList (trim (trimEnd name.toList))))) = _
  have filled : ¬ name.toList.isEmpty = true := fun empty => nonempty <| by
    rw [← String.ofList_toList (s := name), List.isEmpty_iff.mp empty]
  rw [plain.2.trimEnd_eq, plain.2.trim_eq, if_neg filled, String.ofList_toList]

end Statement

/-! ### Texts -/

namespace Reader

/-- Lines read in two lots are read in turn. -/
theorem readLines_append {reader middle : Reader} {line : Nat} {first : List (List Char)}
    (read : reader.readLines line first = .ok middle) (second : List (List Char)) :
    reader.readLines line (first ++ second) =
      middle.readLines (line + first.length) second := by
  induction first generalizing reader line with
  | nil =>
    cases read
    rfl
  | cons raw first ih =>
    rw [List.cons_append, readLines]
    rw [readLines] at read
    split at read
    · rw [ih read, List.length_cons, Nat.add_right_comm, Nat.add_assoc]
    · cases read

/-- One line, read as a statement that is taken. -/
theorem readLines_cons {reader next : Reader} {statement : Statement} {raw : List Char}
    (read : Statement.ofLine raw = .ok statement) (taken : reader.take statement = .ok next)
    (line : Nat) (rest : List (List Char)) :
    reader.readLines line (raw :: rest) = next.readLines (line + 1) rest := by
  have step : reader.readLine raw = .ok next := by
    rw [readLine, read]
    exact taken
  rw [readLines, step]

/-- The lines of writable features set them in the tile named last. -/
theorem readLines_features {features : List Feature}
    (writable : ∀ feature ∈ features, feature.IsWritable) (document : Document) (tile : String)
    (line : Nat) :
    readLines ⟨document, some tile⟩ line (features.map Feature.line) =
      .ok ⟨document.applyAll (features.map (.set tile)), some tile⟩ := by
  induction features generalizing document line with
  | nil => rfl
  | cons feature features ih =>
    have here := writable feature List.mem_cons_self
    have taken : take ⟨document, some tile⟩
        (.setting feature.kind (feature.texts.flatMap (' ' :: ·)) feature.line) =
          .ok ⟨document.apply (.set tile feature), some tile⟩ := by
      show (Feature.ofFields feature.kind feature.line (fields _)).map _ = _
      rw [fields_flatMap here.isField (by decide), Feature.ofFields_texts]
      rfl
    rw [List.map_cons, readLines_cons (Statement.ofLine_line here) taken,
      ih fun other member => writable other (List.mem_cons_of_mem _ member)]
    rfl

/-- The lines of a tile make it anew. -/
theorem readLines_tileLines {tile : String} {settings : TileSettings} (nonempty : tile ≠ "")
    (plain : IsPlainName tile) (writable : ∀ feature ∈ settings.features, feature.IsWritable)
    (reader : Reader) (line : Nat) :
    reader.readLines line (Document.tileLines tile settings) =
      .ok ⟨reader.document.applyAll (Document.tileEdits tile settings), some tile⟩ := by
  have taken : reader.take (.tile tile) =
      .ok ⟨reader.document.apply (.create tile), some tile⟩ := rfl
  have head := readLines_cons (Statement.ofLine_tile nonempty plain) taken line
  rw [Document.tileLines, List.cons_append, head, TileSettings.lines,
    readLines_append (readLines_features writable _ tile _)]
  rfl

/-- The lines of tiles make them anew, one after the other. -/
theorem readLines_tiles {tiles : List (String × TileSettings)}
    (nonempty : ∀ entry ∈ tiles, entry.1 ≠ "") (plain : ∀ entry ∈ tiles, IsPlainName entry.1)
    (writable : ∀ entry ∈ tiles, ∀ feature ∈ entry.2.features, feature.IsWritable)
    (reader : Reader) (line : Nat) :
    (reader.readLines line
        (tiles.flatMap fun (tile, settings) => Document.tileLines tile settings)).map
          (·.document) =
      .ok (reader.document.applyAll
        (tiles.flatMap fun (tile, settings) => Document.tileEdits tile settings)) := by
  induction tiles generalizing reader line with
  | nil => rfl
  | cons entry tiles ih =>
    rw [List.flatMap_cons, List.flatMap_cons, readLines_append
      (readLines_tileLines (nonempty entry List.mem_cons_self) (plain entry List.mem_cons_self)
        (writable entry List.mem_cons_self) reader line), ih
      (fun other member => nonempty other (List.mem_cons_of_mem _ member))
      (fun other member => plain other (List.mem_cons_of_mem _ member))
      (fun other member => writable other (List.mem_cons_of_mem _ member)),
      Document.applyAll_append]

/-- The comments are added in order. -/
theorem readLines_comments {comments : List String}
    (each : ∀ comment ∈ comments, IsLine comment.toList) (reader : Reader) (line : Nat) :
    reader.readLines line (comments.map (".comment ".toList ++ ·.toList)) =
      .ok { reader with
        document := { reader.document with metadata := reader.document.metadata ++ comments } } := by
  induction comments generalizing reader line with
  | nil =>
    rw [List.append_nil]
    rfl
  | cons comment comments ih =>
    have first := Statement.ofLine_comment (each comment List.mem_cons_self)
    rw [List.map_cons, readLines_cons first rfl,
      ih fun other member => each other (List.mem_cons_of_mem _ member)]
    simp [Document.comment]

/-- The lines before the tiles give the name of the device and the comments. -/
theorem readLines_headLines {document : Document} (writable : document.IsWritable) :
    readLines {} 1 document.headLines = .ok ⟨{ document with tiles := ∅ }, none⟩ := by
  rw [Document.headLines, List.cons_append,
    readLines_cons (Statement.ofLine_device writable.deviceName) rfl, List.cons_append,
    readLines_cons (show Statement.ofLine [] = .ok .remark from rfl) rfl,
    readLines_append (readLines_comments writable.comment _ _)]
  rfl

end Reader

namespace Document

/-- **The text of a writable document is read as the document without its empty tiles.** -/
theorem ofText_toText_eq {document : Document} (writable : document.IsWritable) :
    ofText document.toText = .ok document.settled := by
  have tile : ∀ entry ∈ document.settledTiles, entry.1 ≠ "" ∧ IsPlainName entry.1 ∧
      ∀ feature ∈ entry.2.features, feature.IsWritable := by
    rintro ⟨tile, settings⟩ member
    obtain ⟨rfl, filled⟩ := settings_of_mem_settledTiles member
    obtain ⟨nonempty, plain⟩ := writable.tile tile filled
    exact ⟨nonempty, plain, writable.feature tile⟩
  unfold ofText toText
  rw [String.toList_ofList, lines_unlines (isLine_of_mem_lines writable), lines,
    Reader.readLines_append (Reader.readLines_headLines writable),
    Reader.readLines_tiles (fun entry member => (tile entry member).1)
      (fun entry member => (tile entry member).2.1) (fun entry member => (tile entry member).2.2),
    applyAll_tileEdits]

/-- **Reading undoes writing**, up to empty tiles, and equal texts come from documents that are
equal up to empty tiles. -/
theorem ofText_toText_and_toText_injective :
    (∀ document : Document, document.IsWritable →
      ofText document.toText = .ok document.settled) ∧
    ∀ first second : Document, first.IsWritable → second.IsWritable →
      first.toText = second.toText → first.settled = second.settled := by
  refine ⟨fun _ => ofText_toText_eq, fun first second left right same => ?_⟩
  have read := ofText_toText_eq left
  rw [same, ofText_toText_eq right] at read
  exact (Except.ok.inj read).symm

/-- A document with blanks inside its names, at the ends of its comments and around nothing, with
marks that mean something elsewhere in the text, and with a word without bits. -/
def unusual : Document :=
  ({ deviceName := "#1  .tile", metadata := ["  indented", "trailing \r ", ""] } :
    Document).applyAll
    [.set "R1 C1" (.arc ".A0" "#F0:1"), .set "R1 C1" (.word "W" [true, false, false]),
      .set "R1 C1" (.word ":none:" []), .set "word:" (.enum "MODE" "0b1"),
      .set "word:" (.raw ⟨0, 4294967295⟩)]

/-- An unusual document is read back, and so is the same document with an empty tile, which has
the same text. -/
theorem ofText_toText_unusual :
    unusual.IsWritable ∧ ofText unusual.toText = .ok unusual.settled ∧
      (unusual.apply (.create " ")).IsWritable ∧
      unusual.toText = (unusual.apply (.create " ")).toText ∧
      unusual.settled = (unusual.apply (.create " ")).settled := by
  have writable : unusual.IsWritable := by decide +kernel
  have other : (unusual.apply (.create " ")).IsWritable := by decide +kernel
  have same : unusual.toText = (unusual.apply (.create " ")).toText := by decide +kernel
  exact ⟨writable, ofText_toText_and_toText_injective.1 unusual writable, other, same,
    ofText_toText_and_toText_injective.2 unusual _ writable other same⟩

end Document

end FabricConfig
