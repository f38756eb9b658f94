import FabricConfig.Proofs.Document.Reading
/-!
# The grammar of texts

Which lines may stand in a text, stated by themselves. Blanks around a line are left out, and a line
is judged together with the lines before it, since settings may only follow a line that names a
tile.

* `Feature.exists_ofFields_iff`: the fields that each kind of feature takes.
* `Statement.ofLine_eq_ok_iff`: a line is read as what it says.
* `Reader.exists_readLine_iff`, `Reader.readLines_outcome`: one line after others, and all lines.
* `Reader.readLines_error_congr`: an error depends on the lines up to the one that it blames.
* `Document.ofText_iff_areAcceptable`: a text is read just when all its lines are acceptable, and
  else the first one that is not is blamed.
-/

namespace FabricConfig

open Text

/-! ### Features -/

namespace Feature

theorem exists_readDigits_iff {word : String} {digits : List Char} :
    (∃ bits, readDigits word digits = .ok bits) ↔ ∀ digit ∈ digits, digit = '0' ∨ digit = '1' := by
  induction digits with
  | nil => simp [readDigits]
  | cons digit rest ih =>
    rw [readDigits, List.forall_mem_cons, ← ih]
    by_cases zero : digit = '0'
    · simp [zero, exists_map_eq_ok_iff]
    · by_cases one : digit = '1'
      · simp [one, exists_map_eq_ok_iff]
      · simp [zero, one]

theorem exists_readRawBit?_iff {text : List Char} :
    (∃ bit, readRawBit? text = some bit) ↔
      ∃ frame bit, text = 'F' :: frame ++ 'B' :: bit ∧ IsNumeral frame ∧ IsNumeral bit := by
  simp only [readRawBit?, Option.bind_eq_bind, Option.pure_def, Option.bind_eq_some_iff,
    dropLead?_eq_some_iff, ← exists_uint32?_iff]
  constructor
  · rintro ⟨_, _, rfl, ⟨frame, bit⟩, cut, place, first, other, second, _⟩
    obtain ⟨rfl, _⟩ := splitOnce?_eq_some_iff.mp cut
    exact ⟨frame, bit, rfl, ⟨place, first⟩, other, second⟩
  · rintro ⟨frame, bit, rfl, ⟨place, first⟩, other, second⟩
    have numeral : IsNumeral frame := exists_uint32?_iff.mp ⟨place, first⟩
    have letter : 'B' ∉ frame := numeral.notMem (by decide) (by decide)
    exact ⟨_, _, rfl, _, splitOnce?_append letter bit, place, first, other, second, rfl⟩

/-- The kinds of features, with the fields that each takes. -/
inductive IsFeature : String → List (List Char) → Prop
  | arc (sink source : List Char) : IsFeature "arc" [sink, source]
  | emptyWord (name : List Char) : IsFeature "word" [name]
  | word (name : List Char) {digits : List Char}
      (binary : ∀ digit ∈ digits, digit = '0' ∨ digit = '1') : IsFeature "word" [name, digits]
  | enum (name value : List Char) : IsFeature "enum" [name, value]
  | raw {frame bit : List Char} (frameFits : IsNumeral frame) (bitFits : IsNumeral bit) :
      IsFeature "unknown" ['F' :: frame ++ 'B' :: bit]

theorem IsFeature.kind_mem {kind : String} {texts : List (List Char)}
    (feature : IsFeature kind texts) : kind ∈ kinds := by
  cases feature <;> decide

/-- **A feature is read from the fields that its kind takes**, and from no others. -/
theorem exists_ofFields_iff {kind : String} {line : List Char} {texts : List (List Char)} :
    (∃ feature, ofFields kind line texts = .ok feature) ↔ IsFeature kind texts := by
  constructor
  · intro ⟨feature, read⟩
    unfold ofFields at read
    split at read
    · cases read
    split at read
    · exact .arc _ _
    · rename_i name digits _
      obtain ⟨bits, digitsRead, _⟩ := map_eq_ok_iff.mp read
      have binary := exists_readDigits_iff.mp ⟨bits, digitsRead⟩
      exact .word name fun digit member => binary digit (List.mem_reverse.mpr member)
    · exact .emptyWord _
    · exact .enum _ _
    · rename_i text _
      cases bitRead : readRawBit? text with
      | none => simp [bitRead] at read
      | some bit =>
        obtain ⟨frame, place, rfl, frameFits, bitFits⟩ := exists_readRawBit?_iff.mp ⟨bit, bitRead⟩
        exact .raw frameFits bitFits
    · split at read <;> cases read
  · intro feature
    cases feature with
    | arc sink source => exact ⟨_, rfl⟩
    | emptyWord name => exact ⟨_, rfl⟩
    | word name binary =>
      have inOrder : ∀ digit ∈ _, digit = '0' ∨ digit = '1' := fun digit member =>
        binary digit (List.mem_reverse.mp member)
      obtain ⟨bits, read⟩ := exists_readDigits_iff.mpr inOrder
      exact ⟨_, map_eq_ok_iff.mpr ⟨bits, read, rfl⟩⟩
    | enum name value => exact ⟨_, rfl⟩
    | raw frameFits bitFits =>
      obtain ⟨bit, read⟩ := exists_readRawBit?_iff.mpr ⟨_, _, rfl, frameFits, bitFits⟩
      refine ⟨.raw bit, ?_⟩
      generalize 'F' :: _ ++ 'B' :: _ = text at read ⊢
      simp [ofFields, read]

end Feature

/-! ### Statements -/

/-- A line up to the carriage returns at its end, where the text of a comment ends. -/
def wholeLine (raw : List Char) : List Char := dropEndWhile (· == '\r') (trimStart raw)

theorem trimEnd_wholeLine (raw : List Char) : trimEnd (wholeLine raw) = trim raw :=
  dropEndWhile_dropEndWhile (fun c same => by rw [beq_iff_eq.mp same]; rfl) _

/-- A directive: a point and a word, which end the line or have a space and an argument after
them. -/
inductive IsDirective (word : String) : (argument line : List Char) → Prop
  | alone : IsDirective word [] ('.' :: word.toList)
  | given (argument : List Char) : IsDirective word argument ('.' :: word.toList ++ ' ' :: argument)

theorem IsDirective.exists_eq_cons {word : String} {argument line : List Char}
    (directive : IsDirective word argument line) : ∃ rest, line = '.' :: rest := by
  cases directive with
  | alone => exact ⟨_, rfl⟩
  | given => exact ⟨_, rfl⟩

theorem splitOnce?_eq_iff_isDirective {word : String} {rest argument : List Char}
    (noSpace : ' ' ∉ word.toList) :
    (splitOnce? ' ' rest).getD (rest, []) = (word.toList, argument) ↔
      IsDirective word argument ('.' :: rest) := by
  constructor
  · intro cut
    cases found : splitOnce? ' ' rest with
    | none =>
      rw [found] at cut
      cases cut
      exact .alone
    | some parts =>
      rw [found] at cut
      cases cut
      rw [(eq_of_splitOnce?_eq_some found).1]
      exact .given argument
  · intro directive
    generalize whole : '.' :: rest = line at directive
    cases directive with
    | alone =>
      cases whole
      rw [splitOnce?_eq_none noSpace]
      rfl
    | given =>
      have same : rest = word.toList ++ ' ' :: argument := (List.cons.inj whole).2
      rw [same, splitOnce?_append noSpace]
      rfl

namespace Statement

variable {raw rest : List Char} {statement : Statement}

/-- What a line says, without the blanks around it. Only a comment keeps blanks at its end. -/
inductive Says (raw : List Char) : (line : List Char) → Statement → Prop
  | blank : Says raw [] .remark
  | remark (text : List Char) : Says raw ('#' :: text) .remark
  | device {argument line : List Char} (directive : IsDirective "device" argument line) :
      Says raw line (.device (String.ofList (trim argument)))
  | comment {argument line : List Char} (directive : IsDirective "comment" argument line) :
      Says raw line (.comment (String.ofList
        ((dropLead? [' '] ((wholeLine raw).drop ".comment".length)).getD
          ((wholeLine raw).drop ".comment".length))))
  | tile {argument line : List Char} (directive : IsDirective "tile" argument line)
      (filled : trim argument ≠ []) : Says raw line (.tile (String.ofList (trim argument)))
  | setting {kind body line : List Char} (first : ∀ c ∈ line.head?, c ≠ '#' ∧ c ≠ '.')
      (colon : splitOnce? ':' line = some (kind, body)) :
      Says raw line (.setting (String.ofList kind) body line)

theorem ofDirective_eq_ok_iff :
    ofDirective (wholeLine raw) rest = .ok statement ↔ Says raw ('.' :: rest) statement := by
  constructor
  · intro read
    unfold ofDirective at read
    generalize cut : (splitOnce? ' ' rest).getD (rest, []) = parts at read
    obtain ⟨word, argument⟩ := parts
    have directive (name : String) (same : String.ofList word = name)
        (noSpace : ' ' ∉ name.toList) : IsDirective name argument ('.' :: rest) := by
      rw [← splitOnce?_eq_iff_isDirective noSpace, cut, ← same, String.toList_ofList]
    dsimp only at read
    split at read
    · rename_i same
      cases read
      exact .device (directive "device" same (by decide))
    · rename_i same
      cases read
      exact .comment (directive "comment" same (by decide))
    · rename_i same
      split at read
      · cases read
      · rename_i filled
        cases read
        exact .tile (directive "tile" same (by decide)) (by simpa using filled)
    · cases read
  · intro told
    generalize line : '.' :: rest = whole at told
    unfold ofDirective
    cases told with
    | blank => cases line
    | remark text => cases line
    | device directive =>
      subst line
      rw [(splitOnce?_eq_iff_isDirective (by decide)).mpr directive]
      rfl
    | comment directive =>
      subst line
      rw [(splitOnce?_eq_iff_isDirective (by decide)).mpr directive]
      rfl
    | tile directive filled =>
      subst line
      rw [(splitOnce?_eq_iff_isDirective (by decide)).mpr directive]
      exact if_neg (by simpa using filled)
    | setting first colon =>
      subst line
      exact absurd rfl (first '.' rfl).2

/-- **A line is read as what it says.** -/
theorem ofLine_eq_ok_iff : ofLine raw = .ok statement ↔ Says raw (trim raw) statement := by
  have same : trimEnd (dropEndWhile (· == '\r') (trimStart raw)) = trim raw :=
    trimEnd_wholeLine raw
  unfold ofLine
  simp only [same]
  generalize trim raw = line
  constructor
  · intro read
    split at read
    · cases read
      exact .blank
    · cases read
      exact .remark _
    · exact ofDirective_eq_ok_iff.mp read
    · rename_i noRemark noDirective
      split at read
      · cases read
      · rename_i kind body colon
        cases read
        refine .setting (fun c first => ?_) colon
        obtain ⟨rest, rfl⟩ := List.head?_eq_some_iff.mp first
        exact ⟨fun same => noRemark rest (same ▸ rfl), fun same => noDirective rest (same ▸ rfl)⟩
  · intro told
    cases told with
    | blank => rfl
    | remark text => rfl
    | device directive =>
      obtain ⟨rest, rfl⟩ := directive.exists_eq_cons
      exact ofDirective_eq_ok_iff.mpr (.device directive)
    | comment directive =>
      obtain ⟨rest, rfl⟩ := directive.exists_eq_cons
      exact ofDirective_eq_ok_iff.mpr (.comment directive)
    | tile directive filled =>
      obtain ⟨rest, rfl⟩ := directive.exists_eq_cons
      exact ofDirective_eq_ok_iff.mpr (.tile directive filled)
    | setting first colon =>
      split
      · cases colon
      · exact absurd rfl (first '#' rfl).1
      · exact absurd rfl (first '.' rfl).2
      · rw [colon]

/-- Blanks around a line count in a comment only. -/
theorem ofLine_congr {other : List Char} (same : trim raw = trim other) :
    ofLine raw = ofLine other ∨
      ∃ first second, ofLine raw = .ok (.comment first) ∧ ofLine other = .ok (.comment second) := by
  have left : trimEnd (dropEndWhile (· == '\r') (trimStart raw)) = trim raw :=
    trimEnd_wholeLine raw
  have right : trimEnd (dropEndWhile (· == '\r') (trimStart other)) = trim raw :=
    (trimEnd_wholeLine other).trans same.symm
  unfold ofLine
  simp only [left, right]
  split
  · exact .inl rfl
  · exact .inl rfl
  · unfold ofDirective
    generalize (splitOnce? ' ' _).getD _ = parts
    dsimp only
    split
    · exact .inl rfl
    · exact .inr ⟨_, _, rfl, rfl⟩
    · exact .inl rfl
    · exact .inl rfl
  · exact .inl rfl

/-! ### Comments -/

/-- The text from a byte of its UTF-8 form on, if a character starts there or the text ends. -/
def dropBytes? : Nat → List Char → Option (List Char)
  | 0, text => some text
  | _ + 1, [] => none
  | bytes + 1, c :: text =>
    if c.utf8Size ≤ bytes + 1 then dropBytes? (bytes + 1 - c.utf8Size) text else none

/-- What is cut off a comment ends where a character starts, and the line is long enough. -/
theorem dropBytes?_wholeLine {text : String} (read : ofLine raw = .ok (.comment text)) :
    dropBytes? ".comment".utf8ByteSize (wholeLine raw) =
      some ((wholeLine raw).drop ".comment".length) := by
  obtain ⟨dropped, whole⟩ := prefix_dropEndWhile isBlank (wholeLine raw)
  have told := ofLine_eq_ok_iff.mp read
  rw [← trimEnd_wholeLine] at told
  obtain ⟨rest, line⟩ : ∃ rest, trimEnd (wholeLine raw) = ".comment".toList ++ rest := by
    generalize trimEnd (wholeLine raw) = line at told
    cases told with
    | comment directive =>
      cases directive with
      | alone => exact ⟨[], rfl⟩
      | given => exact ⟨' ' :: _, rfl⟩
  rw [← whole, show dropEndWhile isBlank (wholeLine raw) = _ from line, List.append_assoc,
    show ".comment".utf8ByteSize = 8 from rfl, show ".comment".length = 8 from rfl]
  simp [dropBytes?, Char.utf8Size]

end Statement

/-! ### Acceptable lines -/

/-- A line that names a tile. -/
def NamesTile (line : List Char) : Prop :=
  ∃ argument, IsDirective "tile" argument line ∧ trim argument ≠ []

/-- The lines that may follow the lines `earlier`. -/
inductive IsAcceptable (earlier : List (List Char)) : List Char → Prop
  | blank : IsAcceptable earlier []
  | remark (text : List Char) : IsAcceptable earlier ('#' :: text)
  | device {argument line : List Char} (directive : IsDirective "device" argument line) :
      IsAcceptable earlier line
  | comment {argument line : List Char} (directive : IsDirective "comment" argument line) :
      IsAcceptable earlier line
  | tile {line : List Char} (names : NamesTile line) : IsAcceptable earlier line
  | setting {kind : String} {body : List Char} (inTile : ∃ line ∈ earlier, NamesTile line)
      (feature : Feature.IsFeature kind (fields body)) :
      IsAcceptable earlier (kind.toList ++ ':' :: body)

/-- Lines each of which is acceptable after those before it. -/
def AreAcceptable (lines : List (List Char)) : Prop :=
  ∀ before line after, lines = before ++ line :: after → IsAcceptable before line

/-- The number, counted from one, of the first line that is not acceptable after those before it. -/
def IsFirstBad (lines : List (List Char)) (number : Nat) : Prop :=
  ∃ before line after, lines = before ++ line :: after ∧ AreAcceptable before ∧
    ¬IsAcceptable before line ∧ number = before.length + 1

section Lines

variable {earlier lines : List (List Char)} {line : List Char} {number other : Nat}

theorem namesTile_iff {raw : List Char} :
    NamesTile (trim raw) ↔ ∃ name, Statement.ofLine raw = .ok (.tile name) := by
  simp only [Statement.ofLine_eq_ok_iff]
  constructor
  · intro ⟨argument, directive, filled⟩
    exact ⟨_, .tile directive filled⟩
  · intro ⟨name, told⟩
    generalize trim raw = line at told
    cases told with
    | tile directive filled => exact ⟨_, directive, filled⟩

theorem areAcceptable_nil : AreAcceptable [] := by
  intro before line after whole
  simp at whole

theorem AreAcceptable.concat (accepted : AreAcceptable earlier)
    (acceptable : IsAcceptable earlier line) : AreAcceptable (earlier ++ [line]) := by
  intro before other after whole
  rcases List.eq_nil_or_concat after with rfl | ⟨rest, last, rfl⟩
  · obtain ⟨rfl, same⟩ := List.append_inj' whole rfl
    cases same
    exact acceptable
  · rw [List.concat_eq_append, ← List.cons_append, ← List.append_assoc] at whole
    exact accepted before other rest (List.append_inj' whole rfl).1

theorem IsFirstBad.not_areAcceptable (bad : IsFirstBad lines number) : ¬AreAcceptable lines := by
  obtain ⟨before, line, after, whole, _, refused, _⟩ := bad
  exact fun accepted => refused (accepted before line after whole)

theorem IsFirstBad.unique (first : IsFirstBad lines number) (second : IsFirstBad lines other) :
    number = other := by
  obtain ⟨before, line, after, whole, accepted, refused, rfl⟩ := first
  obtain ⟨before', line', after', whole', accepted', refused', rfl⟩ := second
  -- Were one part longer, the bad line after the other would be one of its lines.
  rcases List.append_eq_append_iff.mp (whole.symm.trans whole') with
    ⟨middle, rfl, rest⟩ | ⟨middle, rfl, rest⟩
  · cases middle with
    | nil => rw [List.append_nil]
    | cons first middle =>
      cases rest
      exact absurd (accepted' before line middle rfl) refused
  · cases middle with
    | nil => rw [List.append_nil]
    | cons first middle =>
      cases rest
      exact absurd (accepted before' line' middle rfl) refused'

end Lines

/-! ### Lines in turn -/

namespace Reader

variable {reader next other : Reader} {earlier : List (List Char)} {raw : List Char}

/-- A reader that has read the lines `earlier` is in a tile if one of them names one. -/
def HasRead (earlier : List (List Char)) (reader : Reader) : Prop :=
  reader.tile.isSome = true ↔ ∃ line ∈ earlier, NamesTile line

theorem isSome_tile_take {statement : Statement} (taken : reader.take statement = .ok next) :
    next.tile.isSome = true ↔ reader.tile.isSome = true ∨ ∃ name, statement = .tile name := by
  cases statement with
  | tile name =>
    cases taken
    simp
  | setting kind body line =>
    rw [take] at taken
    split at taken
    · cases taken
    · obtain ⟨feature, _, rfl⟩ := map_eq_ok_iff.mp taken
      simp
  | _ =>
    cases taken
    simp

theorem HasRead.readLine (read : reader.HasRead earlier) (ran : reader.readLine raw = .ok next) :
    next.HasRead (earlier ++ [trim raw]) := by
  obtain ⟨statement, said, taken⟩ := bind_eq_ok_iff.mp ran
  have tile := isSome_tile_take taken
  unfold HasRead at read ⊢
  simp only [tile, read, List.mem_append, List.mem_singleton, or_and_right, exists_or,
    exists_eq_left, namesTile_iff, said, Except.ok.injEq]

/-- **A line is read just when it is acceptable** after those that have been read. -/
theorem exists_readLine_iff (read : reader.HasRead earlier) :
    (∃ next, reader.readLine raw = .ok next) ↔ IsAcceptable earlier (trim raw) := by
  constructor
  · intro ⟨next, ran⟩
    obtain ⟨statement, said, taken⟩ := bind_eq_ok_iff.mp ran
    have told := Statement.ofLine_eq_ok_iff.mp said
    generalize trim raw = line at told
    cases told with
    | blank => exact .blank
    | remark text => exact .remark text
    | device directive => exact .device directive
    | comment directive => exact .comment directive
    | tile directive filled => exact .tile ⟨_, directive, filled⟩
    | setting first colon =>
      rename_i kind body
      rw [take] at taken
      split at taken
      · cases taken
      · rename_i tile named
        obtain ⟨feature, fits, _⟩ := map_eq_ok_iff.mp taken
        have inTile := read.mp (by rw [named]; rfl)
        have whole := (eq_of_splitOnce?_eq_some colon).1
        rw [← String.toList_ofList (l := kind)] at whole
        rw [whole]
        exact .setting inTile (Feature.exists_ofFields_iff.mp ⟨feature, fits⟩)
  · intro acceptable
    suffices taken : ∃ statement next, Statement.Says raw (trim raw) statement ∧
        reader.take statement = .ok next by
      obtain ⟨statement, next, told, took⟩ := taken
      exact ⟨next, bind_eq_ok_iff.mpr ⟨statement, Statement.ofLine_eq_ok_iff.mpr told, took⟩⟩
    generalize trim raw = line at acceptable
    cases acceptable with
    | blank => exact ⟨_, _, .blank, rfl⟩
    | remark text => exact ⟨_, _, .remark text, rfl⟩
    | device directive => exact ⟨_, _, .device directive, rfl⟩
    | comment directive => exact ⟨_, _, .comment directive, rfl⟩
    | tile names =>
      obtain ⟨argument, directive, filled⟩ := names
      exact ⟨_, _, .tile directive filled, rfl⟩
    | setting inTile feature =>
      rename_i kind body
      have noColons : ∀ kind ∈ Feature.kinds, ':' ∉ kind.toList := by decide
      have firsts : ∀ kind ∈ Feature.kinds, (kind.toList ++ [':']).head? ≠ some '#' ∧
          (kind.toList ++ [':']).head? ≠ some '.' := by decide
      have noColon := noColons kind feature.kind_mem
      obtain ⟨noRemark, noDirective⟩ := firsts kind feature.kind_mem
      have head : (kind.toList ++ ':' :: body).head? = (kind.toList ++ [':']).head? := by
        simp [List.head?_append]
      have first : ∀ c ∈ (kind.toList ++ ':' :: body).head?, c ≠ '#' ∧ c ≠ '.' := by
        intro c starts
        rw [head] at starts
        exact ⟨fun same => noRemark (same ▸ starts), fun same => noDirective (same ▸ starts)⟩
      obtain ⟨tile, named⟩ := Option.isSome_iff_exists.mp (read.mpr inTile)
      obtain ⟨given, fits⟩ : ∃ given, Feature.ofFields kind (kind.toList ++ ':' :: body)
          (Text.fields body) = .ok given := Feature.exists_ofFields_iff.mpr feature
      have told : Statement.Says raw (kind.toList ++ ':' :: body) _ :=
        .setting first (splitOnce?_append noColon body)
      have taken : reader.take (.setting kind body (kind.toList ++ ':' :: body)) =
          .ok { reader with document := reader.document.apply (.set tile given) } := by
        rw [take, named]
        exact map_eq_ok_iff.mpr ⟨given, fits, rfl⟩
      rw [String.ofList_toList] at told
      exact ⟨_, _, told, taken⟩

/-- **Lines are read just when all are acceptable**, and else the first that is not is blamed. -/
theorem readLines_outcome (read : reader.HasRead earlier) (accepted : AreAcceptable earlier)
    (rest : List (List Char)) :
    (AreAcceptable (earlier ++ rest.map trim) ∧
      ∃ next, reader.readLines (earlier.length + 1) rest = .ok next) ∨
    ∃ number problem, IsFirstBad (earlier ++ rest.map trim) number ∧
      reader.readLines (earlier.length + 1) rest = .error ⟨number, problem⟩ := by
  induction rest generalizing reader earlier with
  | nil =>
    rw [List.map_nil, List.append_nil]
    exact .inl ⟨accepted, reader, rfl⟩
  | cons raw rest ih =>
    by_cases acceptable : IsAcceptable earlier (trim raw)
    · obtain ⟨next, ran⟩ := (exists_readLine_iff read).mpr acceptable
      have later := ih (read.readLine ran) (accepted.concat acceptable)
      rw [List.length_append, List.length_singleton, List.append_assoc, List.singleton_append,
        ← List.map_cons] at later
      rw [readLines, ran]
      exact later
    · cases ran : reader.readLine raw with
      | ok next => exact absurd ((exists_readLine_iff read).mp ⟨next, ran⟩) acceptable
      | error problem =>
        refine .inr ⟨earlier.length + 1, problem, ?_, ?_⟩
        · exact ⟨earlier, trim raw, rest.map trim, rfl, accepted, acceptable, rfl⟩
        · rw [readLines, ran]

/-! ### Errors -/

theorem map_tile_take (tile : reader.tile = other.tile) (statement : Statement) :
    (reader.take statement).map (·.tile) = (other.take statement).map (·.tile) := by
  cases statement with
  | setting kind body line =>
    rw [take, take, tile]
    cases other.tile with
    | none => rfl
    | some name => cases Feature.ofFields kind line (fields body) <;> simp [Except.map]
  | tile name => rfl
  | _ => exact congrArg Except.ok tile

theorem map_tile_readLine {raw' : List Char} (same : trim raw = trim raw')
    (tile : reader.tile = other.tile) :
    (reader.readLine raw).map (·.tile) = (other.readLine raw').map (·.tile) := by
  unfold readLine
  rcases Statement.ofLine_congr same with equal | ⟨first, second, here, there⟩
  · rw [equal]
    cases Statement.ofLine raw' with
    | error problem => rfl
    | ok statement => exact map_tile_take tile statement
  · rw [here, there]
    exact congrArg Except.ok tile

theorem le_line_of_readLines {lines : List (List Char)} {number : Nat} {error : TextError}
    (failed : reader.readLines number lines = .error error) : number ≤ error.line := by
  induction lines generalizing reader number with
  | nil => cases failed
  | cons raw lines ih =>
    rw [readLines] at failed
    split at failed
    · exact Nat.le_of_succ_le (ih failed)
    · cases failed
      exact Nat.le_refl number

/-- **An error depends on the lines up to the one that it blames**, without the blanks around
them. -/
theorem readLines_error_congr {lines others : List (List Char)} {number : Nat} {error : TextError}
    (failed : reader.readLines number lines = .error error) (tile : reader.tile = other.tile)
    (same : (others.map trim).take (error.line + 1 - number) =
      (lines.map trim).take (error.line + 1 - number)) :
    other.readLines number others = .error error := by
  induction lines generalizing reader other number others with
  | nil => cases failed
  | cons raw lines ih =>
    have reached := le_line_of_readLines failed
    obtain ⟨left, count⟩ : ∃ left, error.line + 1 - number = left + 1 :=
      ⟨error.line - number, by omega⟩
    have later : error.line + 1 - (number + 1) = left := by omega
    cases others with
    | nil => simp [count] at same
    | cons raw' others =>
      simp only [count, List.map_cons, List.take_succ_cons, List.cons.injEq] at same
      -- The two first lines end alike: with the same problem, or in the same tile.
      have tiles := map_tile_readLine same.1.symm tile
      rw [readLines] at failed ⊢
      cases ran : reader.readLine raw with
      | error problem =>
        rw [ran] at failed tiles
        rw [map_eq_error_iff.mp tiles.symm]
        exact failed
      | ok next =>
        rw [ran] at failed tiles
        obtain ⟨next', ran', tile'⟩ := map_eq_ok_iff.mp tiles.symm
        rw [ran']
        exact ih failed tile'.symm (by rw [later]; exact same.2)

end Reader

/-! ### Texts -/

namespace Document

/-- The lines of a text without the blanks around them. -/
def trimmedLines (text : String) : List (List Char) := (Text.lines text.toList).map trim

/-- **Reading accepts exactly its grammar** and blames the first line that breaks it. The error is
the same for all texts with the same lines up to that one. No line is cut inside a character or
behind its end. -/
theorem ofText_iff_areAcceptable :
    (∀ text, (∃ document, ofText text = .ok document) ↔ AreAcceptable (trimmedLines text)) ∧
    (∀ text number, (∃ problem, ofText text = .error ⟨number, problem⟩) ↔
      IsFirstBad (trimmedLines text) number) ∧
    (∀ text other error, ofText text = .error error →
      (trimmedLines other).take error.line = (trimmedLines text).take error.line →
        ofText other = .error error) ∧
    ∀ raw text, Statement.ofLine raw = .ok (.comment text) →
      Statement.dropBytes? ".comment".utf8ByteSize (wholeLine raw) =
        some ((wholeLine raw).drop ".comment".length) := by
  have start : Reader.HasRead [] {} := by simp [Reader.HasRead]
  have run (text : String) :
      (AreAcceptable (trimmedLines text) ∧ ∃ document, ofText text = .ok document) ∨
        ∃ number problem, IsFirstBad (trimmedLines text) number ∧
          ofText text = .error ⟨number, problem⟩ := by
    rcases Reader.readLines_outcome start areAcceptable_nil (Text.lines text.toList) with
      ⟨accepted, next, read⟩ | ⟨number, problem, bad, read⟩
    · exact .inl ⟨accepted, next.document, map_eq_ok_iff.mpr ⟨next, read, rfl⟩⟩
    · exact .inr ⟨number, problem, bad, map_eq_error_iff.mpr read⟩
  refine ⟨fun text => ?_, fun text number => ?_, fun text other error failed same => ?_,
    fun raw text => Statement.dropBytes?_wholeLine⟩
  · rcases run text with ⟨accepted, read⟩ | ⟨number, problem, bad, read⟩
    · exact iff_of_true read accepted
    · exact iff_of_false (by simp [read]) bad.not_areAcceptable
  · rcases run text with ⟨accepted, document, read⟩ | ⟨first, problem, bad, read⟩
    · exact iff_of_false (by simp [read]) fun bad => bad.not_areAcceptable accepted
    · refine ⟨fun ⟨other, failed⟩ => ?_, fun also => ⟨problem, by rw [read, also.unique bad]⟩⟩
      rw [read] at failed
      cases failed
      exact bad
  · exact map_eq_error_iff.mpr (Reader.readLines_error_congr (map_eq_error_iff.mp failed) rfl same)

/-- Two texts whose second lines hold the same bad digit, and that differ in blanks and in what
follows. -/
theorem ofText_invalidBit :
    ofText ".tile T\nword: W 10x1\narc: A\n" = .error ⟨2, .invalidBit 'x' "10x1"⟩ ∧
      ofText "  .tile T \r\nword: W 10x1\n.end" = .error ⟨2, .invalidBit 'x' "10x1"⟩ := by
  have first : ofText ".tile T\nword: W 10x1\narc: A\n" = .error ⟨2, .invalidBit 'x' "10x1"⟩ := by
    decide +kernel
  exact ⟨first, ofText_iff_areAcceptable.2.2.1 _ _ _ first (by decide +kernel)⟩

end Document

end FabricConfig
