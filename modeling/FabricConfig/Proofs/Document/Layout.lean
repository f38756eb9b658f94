import FabricConfig.Proofs.Document.Grammar
import FabricConfig.Proofs.Text.Lines
import Mathlib.Data.List.Forall2
/-!
# The layout of a text

How a text is laid out has no part in what is read from it: carriage returns before its line feeds,
blanks around its lines, and lines between them that say nothing. All of these change the lines of
the text, and each line is then read as what it was read as before.

* `readLines_lines`: a text is read alike whether its line ends are taken off or not.
* `wholeLine_append_returns`, `IsPadded.ofLine_eq`: what may be put around a line.
* `readLines_insertLines`: lines that say nothing move the line that is blamed, and nothing else.
* `ofText_relaid`: the three together, for whole texts.
-/

namespace FabricConfig

open Text

/-! ### Blanks at the end -/

namespace Text

variable {line ends : List Char}

theorem dropEndWhile_eq_nil {drop : Char → Bool} (dropped : ∀ c ∈ ends, drop c = true) :
    dropEndWhile drop ends = [] := by
  rw [dropEndWhile, List.dropWhile_eq_nil_iff.mpr (by simpa using dropped), List.reverse_nil]

/-- Blanks at the end that are dropped there do not count, not even on a line of blanks only. -/
theorem dropEndWhile_trimStart_append {drop : Char → Bool} (blank : ∀ c ∈ ends, isBlank c = true)
    (dropped : ∀ c ∈ ends, drop c = true) :
    dropEndWhile drop (trimStart (line ++ ends)) = dropEndWhile drop (trimStart line) := by
  unfold trimStart
  rw [List.dropWhile_append]
  split
  · rename_i empty
    rw [List.isEmpty_iff.mp empty, List.dropWhile_eq_nil_iff.mpr blank]
  · rw [dropEndWhile_append, if_pos (dropEndWhile_eq_nil dropped)]

theorem trim_append_blanks (blank : ∀ c ∈ ends, isBlank c = true) :
    trim (line ++ ends) = trim line :=
  dropEndWhile_trimStart_append blank blank

theorem trimStart_append_blanks {lead : List Char} (blank : ∀ c ∈ lead, isBlank c = true) :
    trimStart (lead ++ line) = trimStart line :=
  List.dropWhile_append_of_pos blank

end Text

section Lines

variable {line other : List Char}

/-- Carriage returns at the end of a line do not count, whatever the line says. -/
theorem wholeLine_append_returns {ends : List Char} (returns : ∀ c ∈ ends, c = '\r') :
    wholeLine (line ++ ends) = wholeLine line :=
  dropEndWhile_trimStart_append (fun c member => by rw [returns c member]; rfl)
    fun c member => beq_iff_eq.mpr (returns c member)

theorem wholeLine_dropCarriageReturn (line : List Char) :
    wholeLine (dropCarriageReturn line) = wholeLine line := by
  unfold dropCarriageReturn
  split
  · rename_i last
    have shorter : wholeLine (line.dropLast ++ ['\r']) = wholeLine line.dropLast :=
      wholeLine_append_returns (by simp)
    rw [← shorter, List.dropLast_append_getLast? '\r' last]
  · rfl

theorem wholeLine_append_blanks {lead : List Char} (blank : ∀ c ∈ lead, isBlank c = true) :
    wholeLine (lead ++ line) = wholeLine line := by
  rw [wholeLine, trimStart_append_blanks blank, wholeLine]

/-- What a line says is found in it up to the carriage returns at its end. -/
theorem Statement.ofLine_eq_of_wholeLine_eq (same : wholeLine line = wholeLine other) :
    ofLine line = ofLine other := by
  have kept : dropEndWhile (· == '\r') (trimStart line) =
      dropEndWhile (· == '\r') (trimStart other) := same
  unfold ofLine
  rw [kept]

/-! ### Padding -/

/-- Blanks that stand on one line. -/
def IsPadding (blanks : List Char) : Prop := '\n' ∉ blanks ∧ ∀ c ∈ blanks, isBlank c = true

instance (blanks : List Char) : Decidable (IsPadding blanks) :=
  @instDecidableAnd _ _ inferInstance (List.decidableBAll _ blanks)

/-- A line that is a directive for a comment, alone or with a text. -/
def IsCommentLine (line : List Char) : Prop :=
  ∃ argument, IsDirective "comment" argument (trim line)

/-- A line with blanks put around it: at its start, and before the blanks that it ends in, if there
are any, unless it is a comment. -/
inductive IsPadded : (line other : List Char) → Prop
  | start {lead line : List Char} (leading : IsPadding lead) : IsPadded line (lead ++ line)
  | both {lead line trail ends : List Char} (leading : IsPadding lead) (trailing : IsPadding trail)
      (blank : ∀ c ∈ ends, isBlank c = true) (noComment : ¬IsCommentLine line) :
      IsPadded (line ++ ends) (lead ++ (line ++ trail ++ ends))

theorem IsPadded.notMem (padded : IsPadded line other) (absent : '\n' ∉ line) : '\n' ∉ other := by
  cases padded with
  | start leading =>
    exact fun feed => (List.mem_append.mp feed).elim leading.1 absent
  | both leading trailing =>
    simp only [List.mem_append, not_or] at absent ⊢
    exact ⟨leading.1, ⟨absent.1, trailing.1⟩, absent.2⟩

theorem forall_notMem_of_isPadded {lines others : List (List Char)}
    (padded : List.Forall₂ IsPadded lines others) (absent : ∀ line ∈ lines, '\n' ∉ line) :
    ∀ other ∈ others, '\n' ∉ other := by
  induction padded with
  | nil => exact absent
  | cons here _ ih =>
    obtain ⟨first, rest⟩ := List.forall_mem_cons.mp absent
    exact List.forall_mem_cons.mpr ⟨here.notMem first, ih rest⟩

/-- A comment is a directive for one. -/
theorem isCommentLine_of_ofLine {text : String}
    (read : Statement.ofLine line = .ok (.comment text)) : IsCommentLine line := by
  have told := Statement.ofLine_eq_ok_iff.mp read
  unfold IsCommentLine
  generalize trim line = trimmed at told ⊢
  cases told with
  | comment directive => exact ⟨_, directive⟩

/-- **A line with blanks around it says the same.** -/
theorem IsPadded.ofLine_eq (padded : IsPadded line other) :
    Statement.ofLine other = Statement.ofLine line := by
  cases padded with
  | start leading =>
    exact Statement.ofLine_eq_of_wholeLine_eq (wholeLine_append_blanks leading.2)
  | @both lead line trail ends leading trailing blank noComment =>
    have bare : trim (line ++ ends) = trim line := trim_append_blanks blank
    have same : trim (lead ++ (line ++ trail ++ ends)) = trim line := by
      rw [trim, trimStart_append_blanks leading.2, ← trim, trim_append_blanks blank,
        trim_append_blanks trailing.2]
    rcases Statement.ofLine_congr (same.trans bare.symm) with equal | ⟨_, _, _, read⟩
    · exact equal
    · have comment := isCommentLine_of_ofLine read
      rw [IsCommentLine, bare] at comment
      exact absurd comment noComment

/-! ### Lines that say nothing -/

/-- A line that says nothing: it is blank, or a remark after blanks at most. -/
inductive IsSilent : List Char → Prop
  | blank {line : List Char} (padding : IsPadding line) : IsSilent line
  | remark {lead text : List Char} (leading : IsPadding lead) (absent : '\n' ∉ text) :
      IsSilent (lead ++ '#' :: text)

theorem IsSilent.notMem (silent : IsSilent line) : '\n' ∉ line := by
  cases silent with
  | blank padding => exact padding.1
  | remark leading absent =>
    intro feed
    rcases List.mem_append.mp feed with early | late
    · exact leading.1 early
    · exact absent (List.mem_of_ne_of_mem (by decide) late)

theorem IsSilent.ofLine_eq (silent : IsSilent line) : Statement.ofLine line = .ok .remark := by
  rw [Statement.ofLine_eq_ok_iff]
  cases silent with
  | blank padding =>
    have empty : trim ([] ++ line) = trim [] := trim_append_blanks padding.2
    rw [List.nil_append] at empty
    rw [empty]
    exact .blank
  | @remark lead text leading =>
    have solid : trimStart ('#' :: text) = '#' :: text := rfl
    have ended : trimEnd (['#'] ++ text) = ['#'] ++ trimEnd text :=
      trimEnd_append (by simp [isBlank]) text
    rw [trim, trimStart_append_blanks leading.2, solid]
    exact ended ▸ .remark _

end Lines

/-! ### Lines put in -/

namespace Text

/-- Lines with others put in before each of them and after the last. -/
def insertLines (added : Nat → List (List Char)) : List (List Char) → List (List Char)
  | [] => added 0
  | line :: lines => added 0 ++ line :: insertLines (fun place => added (place + 1)) lines

/-- How many lines are put in before the line of a number, counted from one. -/
def countBefore (added : Nat → List (List Char)) (number : Nat) : Nat :=
  ((List.range number).flatMap added).length

theorem countBefore_succ (added : Nat → List (List Char)) (number : Nat) :
    countBefore added (number + 1) =
      (added 0).length + countBefore (fun place => added (place + 1)) number := by
  rw [countBefore, List.range_succ_eq_map, List.flatMap_cons, List.length_append, List.flatMap_map]
  rfl

theorem insertLines_ne_nil {added : Nat → List (List Char)} {lines : List (List Char)}
    (some : lines ≠ []) : insertLines added lines ≠ [] := by
  obtain ⟨line, lines, rfl⟩ := List.exists_cons_of_ne_nil some
  exact List.append_ne_nil_of_right_ne_nil _ (List.cons_ne_nil _ _)

theorem mem_insertLines {added : Nat → List (List Char)} {lines : List (List Char)}
    {line : List Char} (member : line ∈ insertLines added lines) :
    line ∈ lines ∨ ∃ place, line ∈ added place := by
  induction lines generalizing added with
  | nil => exact .inr ⟨0, member⟩
  | cons first lines ih =>
    rcases List.mem_append.mp member with early | late
    · exact .inr ⟨0, early⟩
    rcases List.mem_cons.mp late with rfl | late
    · exact .inl List.mem_cons_self
    rcases ih late with old | ⟨place, new⟩
    · exact .inl (List.mem_cons_of_mem _ old)
    · exact .inr ⟨place + 1, new⟩

end Text

/-! ### Lines in turn -/

namespace Reader

variable {lines others remarks : List (List Char)}

/-- Lines that say the same are read alike. -/
theorem readLines_congr
    (same : List.Forall₂ (fun line other => Statement.ofLine line = Statement.ofLine other)
      lines others) (reader : Reader) (number : Nat) :
    reader.readLines number lines = reader.readLines number others := by
  induction same generalizing reader number with
  | nil => rfl
  | @cons line other _ _ here _ ih =>
    have step : reader.readLine line = reader.readLine other := by rw [readLine, readLine, here]
    rw [readLines, readLines, step]
    cases reader.readLine other with
    | error problem => rfl
    | ok next => exact ih next (number + 1)

/-- Lines that say nothing are counted. -/
theorem readLines_append_of_silent (silent : ∀ line ∈ remarks, Statement.ofLine line = .ok .remark)
    (reader : Reader) (number : Nat) (rest : List (List Char)) :
    reader.readLines number (remarks ++ rest) =
      reader.readLines (number + remarks.length) rest := by
  induction remarks generalizing number with
  | nil => rfl
  | cons line remarks ih =>
    rw [List.cons_append, readLines_cons (silent line List.mem_cons_self) rfl,
      ih fun other member => silent other (List.mem_cons_of_mem _ member), List.length_cons,
      Nat.add_right_comm, Nat.add_assoc]

/-- An empty line at the end is no line of the text, and says nothing where it is taken for one. -/
theorem readLines_concat_nil (reader : Reader) (number : Nat) (lines : List (List Char)) :
    reader.readLines number (lines ++ [[]]) = reader.readLines number lines := by
  induction lines generalizing reader number with
  | nil => rfl
  | cons line lines ih =>
    rw [List.cons_append, readLines, readLines]
    cases reader.readLine line with
    | error problem => rfl
    | ok next => exact ih next (number + 1)

/-- **A text is read alike whether its line ends are taken off or not**: cutting it at its line
feeds leaves carriage returns, and an empty piece at the end. -/
theorem readLines_lines (reader : Reader) (number : Nat) (text : List Char) :
    reader.readLines number (Text.lines text) = reader.readLines number (text.splitOn '\n') := by
  obtain ⟨front, last, pieces⟩ : ∃ front last, text.splitOn '\n' = front ++ [last] := by
    rcases List.eq_nil_or_concat (text.splitOn '\n') with none | ⟨front, last, pieces⟩
    · exact absurd none (List.splitOn_ne_nil _ _)
    · exact ⟨front, last, pieces.trans List.concat_eq_append⟩
  have finished : List.Forall₂ (fun line other => Statement.ofLine line = Statement.ofLine other)
      (front.map dropCarriageReturn) front :=
    List.forall₂_map_left_iff.mpr <| List.forall₂_same.mpr fun line _ =>
      Statement.ofLine_eq_of_wholeLine_eq (wholeLine_dropCarriageReturn line)
  unfold Text.lines
  simp only [pieces, List.dropLast_concat, List.getLast?_concat]
  cases last with
  | nil => rw [readLines_concat_nil, readLines_congr finished]
  | cons c last =>
    exact readLines_congr (List.rel_append finished (.cons rfl .nil)) reader number

/-- **Lines that say nothing move the line that is blamed**, by their number before it, and change
nothing else. -/
theorem readLines_insertLines {added : Nat → List (List Char)}
    (silent : ∀ place, ∀ line ∈ added place, Statement.ofLine line = .ok .remark)
    (reader : Reader) (number moved : Nat) (lines : List (List Char)) :
    reader.readLines (number + moved) (insertLines added lines) =
      (reader.readLines number lines).mapError fun error =>
        { error with
          line := error.line + moved + countBefore added (error.line + 1 - number) } := by
  induction lines generalizing reader number moved added with
  | nil =>
    have ends := readLines_append_of_silent (silent 0) reader (number + moved) []
    rw [List.append_nil] at ends
    exact ends
  | cons line lines ih =>
    rw [insertLines, readLines_append_of_silent (silent 0), readLines, readLines]
    cases reader.readLine line with
    | error problem =>
      have first : countBefore added (number + 1 - number) = (added 0).length := by
        rw [Nat.add_sub_cancel_left]
        exact countBefore_succ added 0
      dsimp only [Except.mapError]
      rw [first]
    | ok next =>
      have later := ih (fun place => silent (place + 1)) next (number + 1)
        (moved + (added 0).length)
      have place : number + moved + (added 0).length + 1 =
          number + 1 + (moved + (added 0).length) := by omega
      dsimp only
      rw [place, later]
      cases result : next.readLines (number + 1) lines with
      | ok last => rfl
      | error error =>
        have reached := le_line_of_readLines result
        have shifted : error.line + 1 - number = error.line + 1 - (number + 1) + 1 := by omega
        dsimp only [Except.mapError]
        rw [shifted, countBefore_succ]
        simp only [Nat.add_assoc]

end Reader

/-! ### Texts -/

namespace Text

/-- A text with a carriage return put before each line feed. -/
def withReturns (text : List Char) : List Char :=
  text.flatMap fun c => if c = '\n' then ['\r', '\n'] else [c]

/-- What stands between the line feeds then ends in a carriage return, or is as it was. -/
theorem forall₂_splitOn_withReturns (text : List Char) :
    List.Forall₂ (fun line other => line = other ∨ line = other ++ ['\r'])
      ((withReturns text).splitOn '\n') (text.splitOn '\n') := by
  simp only [List.splitOn_eq_splitOnP]
  induction text with
  | nil => exact .cons (.inl rfl) .nil
  | cons c text ih =>
    by_cases feed : c = '\n'
    · subst c
      have front : withReturns ('\n' :: text) = '\r' :: '\n' :: withReturns text := rfl
      rw [front]
      simp only [List.splitOnP_cons_eq_if_modifyHead]
      exact .cons (.inr rfl) ih
    · have front : withReturns (c :: text) = c :: withReturns text := by
        rw [withReturns, List.flatMap_cons, if_neg feed]
        rfl
      have solid : ¬((c == '\n') = true) := mt beq_iff_eq.mp feed
      rw [front]
      simp only [List.splitOnP_cons_eq_if_modifyHead, if_neg solid]
      generalize (withReturns text).splitOnP (· == '\n') = lines at ih ⊢
      generalize text.splitOnP (· == '\n') = others at ih ⊢
      cases ih with
      | nil => exact .nil
      | cons here rest =>
        refine .cons ?_ rest
        rcases here with rfl | rfl
        · exact .inl rfl
        · exact .inr rfl

end Text

namespace Document

/-- What stands between the line feeds of a text. -/
def pieces (text : String) : List (List Char) := text.toList.splitOn '\n'

/-- The text that has these pieces between its line feeds. -/
def ofPieces (pieces : List (List Char)) : String := String.ofList (['\n'].intercalate pieces)

theorem ofPieces_pieces (text : String) : ofPieces (pieces text) = text := by
  rw [ofPieces, pieces, List.intercalate_splitOn, String.ofList_toList]

theorem pieces_ofPieces {lines : List (List Char)} (some : lines ≠ [])
    (absent : ∀ line ∈ lines, '\n' ∉ line) : pieces (ofPieces lines) = lines := by
  rw [ofPieces, pieces, String.toList_ofList, List.splitOn_intercalate '\n' absent some]

theorem notMem_of_mem_pieces {text : String} {line : List Char} (member : line ∈ pieces text) :
    '\n' ∉ line := by
  rw [pieces, List.splitOn_eq_splitOnP] at member
  exact fun feed => absurd (not_cut_of_mem_splitOnP member '\n' feed) (by decide)

/-- A text is read piece by piece. -/
theorem ofText_eq_readLines (text : String) :
    ofText text = (Reader.readLines {} 1 (pieces text)).map (·.document) := by
  rw [ofText, Reader.readLines_lines, pieces]

theorem ofText_withReturns (text : String) :
    ofText (String.ofList (withReturns text.toList)) = ofText text := by
  rw [ofText_eq_readLines, ofText_eq_readLines, pieces, String.toList_ofList]
  congr 1
  refine Reader.readLines_congr ((forall₂_splitOn_withReturns text.toList).imp ?_) {} 1
  rintro line other (rfl | rfl)
  · rfl
  · exact Statement.ofLine_eq_of_wholeLine_eq (wholeLine_append_returns (by simp))

theorem ofText_ofPieces_of_isPadded {text : String} {others : List (List Char)}
    (padded : List.Forall₂ IsPadded (pieces text) others) :
    ofText (ofPieces others) = ofText text := by
  have some : others ≠ [] := by
    rintro rfl
    exact List.splitOn_ne_nil _ _ (List.forall₂_nil_right_iff.mp padded)
  have absent := forall_notMem_of_isPadded padded fun _ => notMem_of_mem_pieces
  rw [ofText_eq_readLines, ofText_eq_readLines, pieces_ofPieces some absent]
  rw [Reader.readLines_congr (padded.imp fun _ _ blanks => blanks.ofLine_eq.symm)]

theorem ofText_insertLines {added : Nat → List (List Char)}
    (silent : ∀ place, ∀ line ∈ added place, IsSilent line) (text : String) :
    ofText (ofPieces (insertLines added (pieces text))) =
      (ofText text).mapError fun error =>
        { error with line := error.line + countBefore added error.line } := by
  have some : insertLines added (pieces text) ≠ [] :=
    insertLines_ne_nil (List.splitOn_ne_nil _ _)
  have absent : ∀ line ∈ insertLines added (pieces text), '\n' ∉ line := by
    intro line member
    rcases mem_insertLines member with old | ⟨place, new⟩
    · exact notMem_of_mem_pieces old
    · exact (silent place line new).notMem
  have read := Reader.readLines_insertLines
    (fun place line member => (silent place line member).ofLine_eq) {} 1 0 (pieces text)
  rw [ofText_eq_readLines, ofText_eq_readLines, pieces_ofPieces some absent]
  rw [Nat.add_zero] at read
  rw [read]
  cases Reader.readLines {} 1 (pieces text) with
  | ok reader => rfl
  | error error => rfl

/-- **The layout of a text has no part in what is read.** The result is the same with a carriage
return before each line feed, comments and errors included. It is the same with blanks put around
lines, but for those at the end of a comment. With blank lines and remarks put in between the lines
it is the same document, or the same problem in the line that has moved on by as many as stand
before it. -/
theorem ofText_relaid (text : String) :
    ofText (String.ofList (withReturns text.toList)) = ofText text ∧
      (∀ others, List.Forall₂ IsPadded (pieces text) others →
        ofText (ofPieces others) = ofText text) ∧
      ∀ added, (∀ place, ∀ line ∈ added place, IsSilent line) →
        ofText (ofPieces (insertLines added (pieces text))) =
          (ofText text).mapError fun error =>
            { error with line := error.line + countBefore added error.line } :=
  ⟨ofText_withReturns text, fun _ => ofText_ofPieces_of_isPadded,
    fun _ silent => ofText_insertLines silent text⟩

/-- What is put in before each of three lines. -/
def remarks (place : Nat) : List (List Char) :=
  [["# head".toList], [[], "\t# why".toList], [[' ', '\r']]].getD place []

/-- A text with a comment that ends in blanks and a bad digit in its third line, laid out anew. -/
theorem ofText_relaid_invalidBit :
    let text := ".comment two  \n.tile T\r\nword: W 10x1"
    let padded := "\t.comment two  \n .tile T\t\r\nword: W 10x1\r"
    let apart := "# head\n.comment two  \n\n\t# why\n.tile T\r\n \r\nword: W 10x1"
    List.Forall₂ IsPadded (pieces text) (pieces padded) ∧
      (∀ place, ∀ line ∈ remarks place, IsSilent line) ∧
      ofPieces (insertLines remarks (pieces text)) = apart ∧
      ofText (String.ofList (withReturns text.toList)) = .error ⟨3, .invalidBit 'x' "10x1"⟩ ∧
      ofText padded = .error ⟨3, .invalidBit 'x' "10x1"⟩ ∧
      ofText apart = .error ⟨7, .invalidBit 'x' "10x1"⟩ := by
  intro text padded apart
  have noComment (line : List Char) (other : (trim line).take 8 ≠ ".comment".toList) :
      ¬IsCommentLine line := by
    rintro ⟨argument, directive⟩
    generalize trim line = trimmed at directive other
    cases directive with
    | alone => exact other rfl
    | given => exact other rfl
  have blanks : List.Forall₂ IsPadded (pieces text) (pieces padded) := by
    have cut : pieces text = [".comment two  ".toList, ".tile T".toList ++ ['\r'],
      "word: W 10x1".toList ++ []] := by decide +kernel
    have cutPadded : pieces padded = [['\t'] ++ ".comment two  ".toList,
      [' '] ++ (".tile T".toList ++ ['\t'] ++ ['\r']),
      [] ++ ("word: W 10x1".toList ++ ['\r'] ++ [])] := by decide +kernel
    rw [cut, cutPadded]
    have comment : IsPadded ".comment two  ".toList (['\t'] ++ ".comment two  ".toList) :=
      .start (by decide)
    refine .cons comment (.cons ?_ (.cons ?_ .nil))
    · exact .both (by decide) (by decide) (List.all_eq_true.mp rfl) (noComment _ (by decide))
    · exact .both (by decide) (by decide) (List.all_eq_true.mp rfl) (noComment _ (by decide))
  have silent : ∀ place, ∀ line ∈ remarks place, IsSilent line := by
    intro place line member
    match place with
    | 0 =>
      have head : IsSilent ([] ++ '#' :: " head".toList) := .remark (by decide) (by decide)
      exact List.mem_singleton.mp member ▸ head
    | 1 =>
      rcases List.mem_pair.mp member with rfl | rfl
      · exact .blank (by decide)
      · have why : IsSilent (['\t'] ++ '#' :: " why".toList) := .remark (by decide) (by decide)
        exact why
    | 2 =>
      rw [List.mem_singleton.mp member]
      exact .blank (by decide)
    | place + 3 => cases member
  have read : ofText text = .error ⟨3, .invalidBit 'x' "10x1"⟩ := by decide +kernel
  have placed : ofPieces (insertLines remarks (pieces text)) = apart := by decide +kernel
  obtain ⟨returned, padding, insertion⟩ := ofText_relaid text
  have same := padding _ blanks
  have moved := insertion remarks silent
  rw [ofPieces_pieces, read] at same
  rw [placed, read] at moved
  exact ⟨blanks, silent, placed, returned.trans read, same, moved⟩

end Document

end FabricConfig
