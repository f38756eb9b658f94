import FabricConfig.Json.Parser
import FabricConfig.Json.Printer
import FabricConfig.Proofs.Text.Cutting
/-!
# Values read from their texts

What is written for a value is read as that value. A character of a string is one piece, however it
is escaped; a word ends where a mark follows it; and the machine, once it awaits a value, takes it
and leaves what stands around it as it is.

* `Escapes`, `next?_quote`: a string is read from its text, whatever characters it holds.
* `number?_signedDecimal`, `next?_word`: so are integers and the other scalars.
* `IsPlain.takes`: the machine takes a value with all that is in it, by induction on the value.
* `parse?_render_of_isPlain`: a plain value is read from its text.
* `render_injOn_isPlain`: so plain values are told apart by their texts.
-/

namespace FabricConfig.Text

/-- A number above zero is written without a zero in front. -/
theorem head?_decimal_ne {n : Nat} (positive : 0 < n) : (decimal n).head? ≠ some '0' := by
  induction n using Nat.strongRecOn with
  | _ n ih =>
    unfold decimal at ih ⊢
    by_cases small : n < 10
    · have digits : ∀ d < 10, 0 < d → [d.digitChar].head? ≠ some '0' := by decide
      rw [Nat.toDigits_of_lt_base small]
      exact digits n small positive
    · have shorter := ih (n / 10) (by omega) (by omega)
      rw [Nat.toDigits_of_base_le (by decide) (by omega), List.head?_append]
      cases first : (Nat.toDigits 10 (n / 10)).head? with
      | none => exact absurd (List.head?_eq_none_iff.mp first) Nat.toDigits_ne_nil
      | some c => rw [first] at shorter; exact shorter

end FabricConfig.Text

namespace FabricConfig.Json

variable {c : Char} {rest text : List Char}

/-- A character, how it is written in a string, and the piece that this is scanned as. -/
inductive Escapes : Char → List Char → Piece → Prop
  | letter {c letter : Char} (known : escaped? letter = some c) :
      Escapes c ['\\', letter] (.plain c)
  | number {c : Char} (control : c.toNat < 0x20) :
      Escapes c ('\\' :: 'u' :: Text.padLeft 4 (Text.hexadecimal c.toNat)) (.codeUnit c.toNat)
  | plain {c : Char} (solid : ¬c.toNat < 0x20) (quote : c ≠ '"') (backslash : c ≠ '\\') :
      Escapes c [c] (.plain c)

theorem exists_escapes (c : Char) : ∃ piece, Escapes c (escape c) piece := by
  unfold escape
  iterate 7
    split
    · subst c
      exact ⟨_, .letter rfl⟩
  split
  · rename_i control
    exact ⟨_, .number control⟩
  · exact ⟨_, .plain ‹_› ‹_› ‹_›⟩

/-- The four digits of a control character's number. -/
theorem ofHexDigits?_padLeft : ∀ n < 0x20,
    (Text.padLeft 4 (Text.hexadecimal n)).length = 4 ∧
      Text.ofHexDigits? (Text.padLeft 4 (Text.hexadecimal n)) = some n := by
  decide

/-- **A written character is scanned as one piece.** -/
theorem Escapes.scanPieces_append {written : List Char} {piece : Piece}
    (escapes : Escapes c written piece) (scanned : List Piece) (rest : List Char) :
    scanPieces scanned (written ++ rest) = scanPieces (piece :: scanned) rest := by
  cases escapes with
  | @letter letter known =>
    have other : letter ≠ 'u' := by
      rintro rfl
      cases known
    show scanPieces scanned ('\\' :: letter :: rest) = _
    rw [scanPieces]
    · rw [known]
    · intro _ _ _ _ _ same _
      exact other same
  | number control =>
    obtain ⟨four, read⟩ := ofHexDigits?_padLeft c.toNat control
    match digits : Text.padLeft 4 (Text.hexadecimal c.toNat), four with
    | [p, q, r, s], _ =>
      rw [digits] at read
      show scanPieces scanned ('\\' :: 'u' :: p :: q :: r :: s :: rest) = _
      rw [scanPieces, read]
  | plain solid quote backslash =>
    show scanPieces scanned (c :: rest) = _
    rw [scanPieces]
    · simp [solid, backslash]
    · exact quote
    · intro _ _ _ _ _ same _
      exact backslash same
    · intro _ _ same _
      exact backslash same

/-- **One piece is joined as the character that it was written for**, whatever follows. -/
theorem Escapes.joinPieces_cons {written : List Char} {piece : Piece}
    (escapes : Escapes c written piece) (joined : List Char) (pieces : List Piece) :
    joinPieces joined (piece :: pieces) = joinPieces (c :: joined) pieces := by
  cases escapes with
  | letter known => rw [joinPieces]
  | plain solid quote backslash => rw [joinPieces]
  | number control =>
    have below : ¬(0xD800 ≤ c.toNat ∧ c.toNat < 0xDC00) := by omega
    have other : ¬(0xDC00 ≤ c.toNat ∧ c.toNat < 0xE000) := by omega
    have whole : ¬(0xD800 ≤ c.toNat ∧ c.toNat < 0xE000) := by omega
    match pieces with
    | [] => simp [joinPieces, whole]
    | .plain d :: pieces => simp [joinPieces, whole]
    | .codeUnit n :: pieces => rw [joinPieces, if_neg below, if_neg other, Char.ofNat_toNat]

/-- A string is scanned up to its closing quote. -/
theorem exists_scanPieces (text : List Char) (rest : List Char) : ∃ pieces : List Piece,
    (∀ scanned, scanPieces scanned (text.flatMap escape ++ '"' :: rest) =
      some (scanned.reverse ++ pieces, rest)) ∧
    ∀ joined, joinPieces joined pieces = some (joined.reverse ++ text) := by
  induction text with
  | nil => exact ⟨[], fun scanned => by simp [scanPieces], fun joined => by simp [joinPieces]⟩
  | cons c text ih =>
    obtain ⟨pieces, scans, joins⟩ := ih
    obtain ⟨piece, escapes⟩ := exists_escapes c
    refine ⟨piece :: pieces, fun scanned => ?_, fun joined => ?_⟩
    · rw [List.flatMap_cons, List.append_assoc, escapes.scanPieces_append, scans]
      simp
    · rw [escapes.joinPieces_cons, joins]
      simp

theorem next?_quote (text : String) (rest : List Char) :
    Token.next? '"' (text.toList.flatMap escape ++ '"' :: rest) =
      some (.text (some text), rest) := by
  obtain ⟨pieces, scans, joins⟩ := exists_scanPieces text.toList rest
  have scan := scans []
  have join := joins []
  rw [List.reverse_nil, List.nil_append] at scan join
  simp [Token.next?, scan, join]

/-! ### Other scalars -/

theorem isIntegerPart_decimal (n : Nat) : isIntegerPart (Text.decimal n) = true := by
  have digits : (Text.decimal n).all Char.isDigit = true :=
    List.all_eq_true.mpr fun _ => Text.isDigit_of_mem_decimal
  have head : (Text.decimal n).length = 1 ∨ (Text.decimal n).head? ≠ some '0' := by
    rcases Nat.eq_zero_or_pos n with rfl | positive
    · exact .inl rfl
    · exact .inr (Text.head?_decimal_ne positive)
  unfold isIntegerPart
  rw [digits, List.isEmpty_eq_false_iff.mpr (Text.decimal_ne_nil n)]
  simpa using head

/-- A number is read from its digits, and with a minus sign before them as the number below zero. -/
theorem number?_signedDecimal (value : Int) :
    number? (Text.signedDecimal value) = some (.integer value) := by
  have digits (n : Nat) : ∀ c ∈ Text.decimal n, c.isDigit = true :=
    fun _ => Text.isDigit_of_mem_decimal
  have taken (n : Nat) : (Text.decimal n).takeWhile Char.isDigit = Text.decimal n :=
    List.takeWhile_eq_self_iff.mpr (digits n)
  have left (n : Nat) : (Text.decimal n).dropWhile Char.isDigit = [] :=
    List.dropWhile_eq_nil_iff.mpr (digits n)
  have read (n : Nat) : Nat.ofDigitChars 10 (Text.decimal n) 0 = n := Nat.ofDigitChars_ten_toDigits
  cases value with
  | ofNat n =>
    have unsigned : ∀ rest, Text.decimal n ≠ '-' :: rest := fun rest same =>
      absurd (digits n '-' (by simp [same])) (by decide)
    unfold number? Text.signedDecimal
    split
    rename_i negative text parts
    split at parts
    · rename_i rest same
      exact absurd same (unsigned rest)
    · cases parts
      simp [taken, left, read, isIntegerPart_decimal]
  | negSucc n =>
    simp only [number?, Text.signedDecimal, taken, left, read, isIntegerPart_decimal]
    rfl

/-- A text that is one word: what a scalar other than a string is written as. -/
def IsWord (text : List Char) : Prop := text ≠ [] ∧ ∀ c ∈ text, isWordChar c = true

theorem isWord_signedDecimal (value : Int) :
    IsWord (Text.signedDecimal value) ∧
      word? (Text.signedDecimal value) = some (.integer value) := by
  have each : ∀ c ∈ Text.signedDecimal value, c.isDigit = true ∨ c = '-' := by
    intro c member
    cases value with
    | ofNat n => exact .inl (Text.isDigit_of_mem_decimal member)
    | negSucc n =>
      rcases List.mem_cons.mp member with rfl | digit
      · exact .inr rfl
      · exact .inl (Text.isDigit_of_mem_decimal digit)
  have some : Text.signedDecimal value ≠ [] := by
    cases value with
    | ofNat n => exact Text.decimal_ne_nil n
    | negSucc n => exact List.cons_ne_nil _ _
  have other {c : Char} {text : List Char} (letter : ¬(c.isDigit = true ∨ c = '-')) :
      Text.signedDecimal value ≠ c :: text := fun same =>
    letter (each c (by simp [same]))
  refine ⟨⟨some, fun c member => ?_⟩, ?_⟩
  · rcases each c member with digit | rfl
    · simp [isWordChar, Char.isAlphanum, digit]
    · rfl
  · rw [word?, if_neg (other (by decide)), if_neg (other (by decide)), if_neg (other (by decide)),
      number?_signedDecimal]

/-- A word is taken up to the first character that belongs to no word. -/
theorem next?_word {value : Json} (word : IsWord (c :: text))
    (stops : ∀ x ∈ rest.head?, isWordChar x = false) (read : word? (c :: text) = some value) :
    Token.next? c (text ++ rest) = some (.word value, rest) := by
  have solid := word.2
  have other (mark : Char) (letter : isWordChar mark = false) : c ≠ mark := by
    rintro rfl
    rw [solid c List.mem_cons_self] at letter
    cases letter
  have inside : ∀ x ∈ text, isWordChar x = true := fun x member =>
    solid x (List.mem_cons_of_mem _ member)
  unfold Token.next?
  rw [if_neg (other '[' rfl), if_neg (other ']' rfl), if_neg (other '\x7b' rfl),
    if_neg (other '\x7d' rfl), if_neg (other ':' rfl), if_neg (other ',' rfl),
    if_neg (other '"' rfl), Text.takeWhile_append_eq inside stops,
    Text.dropWhile_append_eq inside stops, read]
  rfl

/-! ### The machine -/

namespace Machine

variable {machine : Machine} {stack : List Frame} {mode : Mode}

/-- A text that starts with a token is taken by one step. -/
theorem run_cons (token : Token) {remaining : List Char}
    (solid : isSpace c = false) (read : Token.next? c rest = some (token, remaining)) :
    machine.run (c :: rest) = (machine.step token).bind (·.run remaining) := by
  have trimmed : (c :: rest).dropWhile isSpace = c :: rest :=
    List.dropWhile_cons_of_neg (by simp [solid])
  rw [run]
  split
  · rename_i empty
    rw [trimmed] at empty
    cases empty
  · rename_i first others found
    rw [trimmed] at found
    cases found
    split
    · rename_i unread
      rw [read] at unread
      cases unread
    · rename_i other left found
      rw [read] at found
      cases found
      cases machine.step token <;> rfl

theorem run_nil : machine.run [] = some machine := by
  rw [run]
  rfl

/-- A machine that is about to take a value. -/
def Awaits (stack : List Frame) (mode : Mode) : Prop :=
  ∀ token, token ≠ .closeArray → step ⟨stack, mode⟩ token = beginValue stack token

/-- The first token of a value. -/
theorem Awaits.run_cons (awaits : Awaits stack mode) (token : Token) {remaining : List Char}
    (solid : isSpace c = false) (read : Token.next? c rest = some (token, remaining))
    (other : token ≠ .closeArray) :
    run ⟨stack, mode⟩ (c :: rest) = (beginValue stack token).bind (·.run remaining) := by
  rw [Machine.run_cons token solid read, awaits token other]

theorem awaits_value (stack : List Frame) : Awaits stack .value := fun _ _ => rfl

theorem awaits_firstItem (stack : List Frame) : Awaits stack .firstItem := by
  intro token other
  cases token with
  | closeArray => exact absurd rfl other
  | _ => rfl

/-- A text that ends a word before it. -/
def EndsWord (rest : List Char) : Prop := ∀ c ∈ rest.head?, isWordChar c = false

/-- The machine takes a value from what is written for it. -/
def Takes (value : Json) : Prop :=
  ∀ stack mode rest, Awaits stack mode → EndsWord rest →
    run ⟨stack, mode⟩ (value.print ++ rest) = run ⟨stack, .after value⟩ rest

theorem takes_of_isWord {value : Json} (word : IsWord value.print)
    (read : word? value.print = some value) : Takes value := by
  intro stack mode rest awaits ends
  cases written : value.print with
  | nil => exact absurd written word.1
  | cons c text =>
    rw [written] at word read
    have solid : isSpace c = false := by
      have inside := word.2 c List.mem_cons_self
      have spaces : ∀ space ∈ [' ', '\n', '\r', '\t'], (!isWordChar space) = true :=
        List.all_eq_true.mp rfl
      rw [← Bool.not_eq_true]
      intro space
      have listed : c ∈ [' ', '\n', '\r', '\t'] := by simpa [isSpace, or_assoc] using space
      have outside := spaces c listed
      rw [inside] at outside
      cases outside
    exact awaits.run_cons _ solid (next?_word word ends read) nofun

theorem takes_text (text : String) : Takes (.text text) := by
  intro stack mode rest awaits _
  have written : (Json.text text).print ++ rest =
      '"' :: (text.toList.flatMap escape ++ '"' :: rest) := by
    simp [print, quote]
  rw [written]
  exact awaits.run_cons _ rfl (next?_quote text rest) nofun

theorem endsWord_printItems (items : List Json) (rest : List Char) :
    EndsWord (printItems items ++ rest) := by
  cases items <;> simp [EndsWord, printItems, show isWordChar ']' = false from rfl,
    show isWordChar ',' = false from rfl]

theorem endsWord_printFields (fields : List (String × Json)) (rest : List Char) :
    EndsWord (printFields fields ++ rest) := by
  cases fields <;> simp [EndsWord, printFields, show isWordChar '\x7d' = false from rfl,
    show isWordChar ',' = false from rfl]

/-- **The machine takes the further items of an array**, and closes it. -/
theorem run_printItems {items : List Json} (each : ∀ item ∈ items, Takes item) (item : Json)
    (done : List Json) (rest : List Char) :
    run ⟨.array done :: stack, .after item⟩ (printItems items ++ rest) =
      run ⟨stack, .after (.array ((item :: done).reverse ++ items))⟩ rest := by
  induction items generalizing item done with
  | nil =>
    rw [printItems, List.append_nil]
    exact run_cons .closeArray rfl rfl
  | cons next items ih =>
    have comma : run ⟨.array done :: stack, .after item⟩ (printItems (next :: items) ++ rest) =
        run ⟨.array (item :: done) :: stack, .value⟩
          (next.print ++ (printItems items ++ rest)) := by
      rw [printItems, List.cons_append, List.cons_append, List.append_assoc]
      exact run_cons .comma rfl rfl
    rw [comma, each next List.mem_cons_self _ _ _ (awaits_value _) (endsWord_printItems items rest),
      ih (fun other member => each other (List.mem_cons_of_mem _ member))]
    simp

/-- A key with its colon is taken wherever a key may stand. -/
theorem run_key {fields : List Field}
    (awaits : ∀ key, step ⟨stack, mode⟩ (.text key) = some ⟨stack, .colon fields key⟩)
    (key : String) (rest : List Char) :
    run ⟨stack, mode⟩ (quote key ++ ':' :: rest) =
      run ⟨.object fields (some key) :: stack, .value⟩ rest := by
  have written : quote key ++ ':' :: rest =
      '"' :: (key.toList.flatMap escape ++ '"' :: ':' :: rest) := by
    simp [quote]
  rw [written, run_cons _ rfl (next?_quote key _), awaits]
  exact run_cons .colon rfl rfl

/-- **The machine takes the further fields of an object**, and closes it. -/
theorem run_printFields {fields : List (String × Json)}
    (each : ∀ field ∈ fields, Takes field.2) (key : Option String) (value : Json)
    (done : List Field) (rest : List Char) :
    run ⟨.object done key :: stack, .after value⟩ (printFields fields ++ rest) =
      run ⟨stack, .after (closeObject ((fields.map fun (key, value) => (some key, value)).reverse ++
        (key, value) :: done))⟩ rest := by
  induction fields generalizing key value done with
  | nil =>
    rw [printFields]
    exact run_cons .closeObject rfl rfl
  | cons field fields ih =>
    obtain ⟨next, inside⟩ := field
    have comma : run ⟨.object done key :: stack, .after value⟩
          (printFields ((next, inside) :: fields) ++ rest) =
        run ⟨stack, .nextKey ((key, value) :: done)⟩
          (quote next ++ ':' :: (inside.print ++ (printFields fields ++ rest))) := by
      rw [printFields]
      simp only [List.cons_append, List.append_assoc]
      exact run_cons .comma rfl rfl
    rw [comma, run_key (fun _ => rfl), each (next, inside) List.mem_cons_self _ _ _ (awaits_value _)
      (endsWord_printFields fields rest),
      ih (fun other member => each other (List.mem_cons_of_mem _ member))]
    simp

end Machine

/-- A list is decoded when each of its items is. -/
theorem mapM_map_eq_some {α β : Type} (encode : α → β) (decode : β → Option α)
    (inverts : ∀ value, decode (encode value) = some value) (values : List α) :
    (values.map encode).mapM decode = some values := by
  induction values with
  | nil => rfl
  | cons value values ih => simp [List.mapM_cons, inverts, ih]

theorem Machine.closeObject_reverse (fields : List (String × Json)) :
    closeObject (fields.map fun (key, value) => (some key, value)).reverse = .object fields := by
  have decoded := mapM_map_eq_some (fun field : String × Json => (some field.1, field.2))
    (fun field => field.1.map (·, field.2)) (fun _ => rfl) fields
  unfold closeObject
  rw [List.reverse_reverse]
  split
  · rename_i named found
    rw [Option.some.inj (found.symm.trans decoded)]
  · rename_i unnamed
    cases unnamed.symm.trans decoded

/-- A value that is written as what it is: each string in it stands for a text, and each number is
an integer. -/
inductive IsPlain : Json → Prop
  | null : IsPlain .null
  | bool (value : Bool) : IsPlain (.bool value)
  | integer (value : Int) : IsPlain (.integer value)
  | text (value : String) : IsPlain (.text value)
  | array {items : List Json} (each : ∀ item ∈ items, IsPlain item) : IsPlain (.array items)
  | object {fields : List (String × Json)} (each : ∀ field ∈ fields, IsPlain field.2) :
    IsPlain (.object fields)

/-- **The machine takes every plain value from what is written for it.** -/
theorem IsPlain.takes {value : Json} (plain : value.IsPlain) : Machine.Takes value := by
  -- The machine takes each part in the frame around it, whatever text is left behind the part.
  induction plain with
  | null => exact Machine.takes_of_isWord ⟨nofun, List.all_eq_true.mp rfl⟩ rfl
  | bool value =>
    cases value <;> exact Machine.takes_of_isWord ⟨nofun, List.all_eq_true.mp rfl⟩ rfl
  | integer value =>
    have ⟨word, read⟩ := isWord_signedDecimal value
    exact Machine.takes_of_isWord word read
  | text value => exact Machine.takes_text value
  | @array items _ each =>
    intro stack mode rest awaits _
    cases items with
    | nil =>
      rw [print, List.cons_append, awaits.run_cons .openArray rfl rfl nofun]
      exact Machine.run_cons .closeArray rfl rfl
    | cons item items =>
      rw [print]
      simp only [List.cons_append, List.append_assoc]
      rw [awaits.run_cons .openArray rfl rfl nofun]
      show Machine.run ⟨.array [] :: stack, .firstItem⟩ _ = _
      rw [each item List.mem_cons_self _ _ _ (Machine.awaits_firstItem _)
        (Machine.endsWord_printItems items rest),
        Machine.run_printItems fun other member => each other (List.mem_cons_of_mem _ member)]
      rfl
  | @object fields _ each =>
    intro stack mode rest awaits _
    cases fields with
    | nil =>
      rw [print, List.cons_append, awaits.run_cons .openObject rfl rfl nofun]
      exact Machine.run_cons .closeObject rfl rfl
    | cons field fields =>
      obtain ⟨key, value⟩ := field
      rw [print]
      simp only [List.cons_append, List.append_assoc]
      rw [awaits.run_cons .openObject rfl rfl nofun]
      show Machine.run ⟨stack, .firstKey⟩ _ = _
      rw [Machine.run_key (fun _ => rfl), each (key, value) List.mem_cons_self _ _ _
        (Machine.awaits_value _) (Machine.endsWord_printFields fields rest),
        Machine.run_printFields fun other member => each other (List.mem_cons_of_mem _ member)]
      have closed := Machine.closeObject_reverse ((key, value) :: fields)
      rw [List.map_cons, List.reverse_cons] at closed
      rw [closed]

/-- **A plain value is read from its text.** -/
theorem parse?_render_of_isPlain {value : Json} (plain : value.IsPlain) :
    parse? value.render = some value := by
  have taken := plain.takes [] .value [] (Machine.awaits_value []) nofun
  rw [List.append_nil, Machine.run_nil] at taken
  rw [parse?, render, String.toList_ofList, Machine.start, taken]
  rfl

/-- **Plain values are told apart by their texts.** -/
theorem render_injOn_isPlain {first second : Json} (plain : first.IsPlain) (other : second.IsPlain)
    (same : first.render = second.render) : first = second := by
  have read := parse?_render_of_isPlain plain
  rw [same, parse?_render_of_isPlain other] at read
  exact (Option.some.inj read).symm

end FabricConfig.Json
