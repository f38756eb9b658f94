import FabricConfig.Json.Decode
import Mathlib.Algebra.GroupWithZero.Nat
import Mathlib.Algebra.Order.BigOperators.Group.List
import Mathlib.Algebra.Order.Group.Nat
import Mathlib.Data.List.Forall2
/-!
# How much a text can hold

A value is read from a text token by token, and every token adds one part to it at most. So a value
has no more parts than its text has characters, and whatever is decoded from it cannot hold more.

* `Machine.extent_step_le`: what one token adds to the values that the machine holds.
* `Machine.extent_run_le`: what a text adds to them, by induction on its tokens.
* `extent_le_of_parse?`: a value that is read has no more parts than its text has characters.
* `extent_lt_of_lookup`: a field of a record is a part of what the record is read from.
* `length_lt_of_optional?`: so the items of a list in a record are fewer than the parts of that.
-/

namespace FabricConfig.Json

/-! ### Parts -/

mutual

/-- The number of parts of a value: itself, and the parts of all values in it. -/
def extent : Json → Nat
  | array items => itemsExtent items + 1
  | object fields => fieldsExtent fields + 1
  | _ => 1

/-- The number of parts of the items of an array. -/
def itemsExtent : List Json → Nat
  | [] => 0
  | item :: rest => item.extent + itemsExtent rest

/-- The number of parts of the values of an object. -/
def fieldsExtent : List (String × Json) → Nat
  | [] => 0
  | (_, value) :: rest => value.extent + fieldsExtent rest

end

theorem itemsExtent_eq (items : List Json) : itemsExtent items = (items.map extent).sum := by
  induction items with
  | nil => rfl
  | cons item items ih => rw [itemsExtent, ih, List.map_cons, List.sum_cons]

theorem fieldsExtent_eq (fields : List (String × Json)) :
    fieldsExtent fields = (fields.map (·.2.extent)).sum := by
  induction fields with
  | nil => rfl
  | cons field fields ih => rw [fieldsExtent, ih, List.map_cons, List.sum_cons]

theorem extent_array (items : List Json) :
    (array items).extent = (items.map extent).sum + 1 := by
  rw [extent, itemsExtent_eq]

theorem extent_object (fields : List (String × Json)) :
    (object fields).extent = (fields.map (·.2.extent)).sum + 1 := by
  rw [extent, fieldsExtent_eq]

theorem one_le_extent (json : Json) : 1 ≤ json.extent := by
  cases json <;> simp [extent]

/-! ### Tokens -/

/-- The number of parts that a token stands for. -/
def Token.extent : Token → Nat
  | .word value => value.extent
  | _ => 1

theorem extent_of_number? {text : List Char} {value : Json} (read : number? text = some value) :
    value.extent = 1 := by
  unfold number? at read
  dsimp only at read
  split_ifs at read <;> cases read <;> rfl

theorem extent_of_word? {text : List Char} {value : Json} (read : word? text = some value) :
    value.extent = 1 := by
  unfold word? at read
  split_ifs at read
  iterate 3
    · cases read
      rfl
  · exact extent_of_number? read

/-- A token of a text stands for one part. -/
theorem Token.extent_of_next? {c : Char} {rest remaining : List Char} {token : Token}
    (read : Token.next? c rest = some (token, remaining)) : token.extent = 1 := by
  unfold Token.next? at read
  split_ifs at read
  iterate 6
    · cases read
      rfl
  · obtain ⟨_, _, same⟩ := Option.map_eq_some_iff.mp read
    cases same
    rfl
  · obtain ⟨value, word, same⟩ := Option.map_eq_some_iff.mp read
    cases same
    exact extent_of_word? word

/-! ### Lists -/

/-- A list is decoded item by item. -/
theorem mapM_eq_some_iff_forall₂ {α β : Type} {decode : α → Option β} {items : List α}
    {values : List β} :
    items.mapM decode = some values ↔
      List.Forall₂ (fun item value => decode item = some value) items values := by
  induction items generalizing values with
  | nil => cases values <;> simp
  | cons item items ih =>
    rw [List.mapM_cons]
    cases first : decode item with
    | none => cases values <;> simp [first]
    | some value =>
      cases rest : items.mapM decode with
      | none => cases values <;> simp [first, ← ih, rest]
      | some more => cases values <;> simp [first, ← ih, rest]

theorem exists_mem_of_mapM {α β : Type} {decode : α → Option β} {items : List α}
    {values : List β} {value : β} (decoded : items.mapM decode = some values)
    (member : value ∈ values) : ∃ item ∈ items, decode item = some value := by
  have each := mapM_eq_some_iff_forall₂.mp decoded
  clear decoded
  induction each with
  | nil => cases member
  | cons first _ ih =>
    rcases List.mem_cons.mp member with rfl | later
    · exact ⟨_, List.mem_cons_self, first⟩
    · obtain ⟨item, listed, same⟩ := ih later
      exact ⟨item, List.mem_cons_of_mem _ listed, same⟩

/-! ### The machine -/

namespace Machine

/-- The number of parts in the fields of an object, where keys may stand for no text. -/
def fieldsHeld (fields : List Field) : Nat := (fields.map (·.2.extent)).sum

/-- The number of parts of an array or object as far as it is read. -/
def frameExtent : Frame → Nat
  | .array items => (items.map Json.extent).sum + 1
  | .object fields _ => fieldsHeld fields + 1

/-- The number of parts of all arrays and objects that are open. -/
def stackExtent (stack : List Frame) : Nat := (stack.map frameExtent).sum

/-- The number of parts of what is held outside of the stack. -/
def modeExtent : Mode → Nat
  | .value | .firstItem => 0
  | .firstKey => 1
  | .nextKey fields | .colon fields _ => fieldsHeld fields + 1
  | .after value => value.extent

/-- The number of parts that a machine holds. -/
def extent (machine : Machine) : Nat := stackExtent machine.stack + modeExtent machine.mode

variable {machine next : Machine} {token : Token} {stack : List Frame} {fields : List Field}
  {value : Json}

theorem stackExtent_cons (frame : Frame) (stack : List Frame) :
    stackExtent (frame :: stack) = frameExtent frame + stackExtent stack := by
  rw [stackExtent, List.map_cons, List.sum_cons, stackExtent]

theorem fieldsHeld_cons (field : Field) (fields : List Field) :
    fieldsHeld (field :: fields) = field.2.extent + fieldsHeld fields := by
  rw [fieldsHeld, List.map_cons, List.sum_cons, fieldsHeld]

theorem extent_string (value : Option String) : (string value).extent = 1 := by
  cases value <;> rfl

theorem extent_closeArray (items : List Json) :
    (Json.array items.reverse).extent = (items.map Json.extent).sum + 1 := by
  rw [extent_array, List.map_reverse, List.sum_reverse]

/-- An object is lost with all that is in it when one of its keys stands for no text. -/
theorem extent_closeObject_le (fields : List Field) :
    (closeObject fields).extent ≤ fieldsHeld fields + 1 := by
  unfold closeObject
  split
  · rename_i closed whole
    have kept : List.Forall₂ (fun (field : Field) (item : String × Json) =>
        field.2.extent = item.2.extent) fields.reverse closed := by
      refine (mapM_eq_some_iff_forall₂.mp whole).imp fun field item keyed => ?_
      obtain ⟨key, _, rfl⟩ := Option.map_eq_some_iff.mp keyed
      rfl
    have same : fields.reverse.map (·.2.extent) = closed.map (·.2.extent) := by
      rwa [← List.forall₂_eq_eq_eq, List.forall₂_map_left_iff, List.forall₂_map_right_iff]
    rw [extent_object, ← same, List.map_reverse, List.sum_reverse, fieldsHeld]
  · exact Nat.le_add_left _ _

theorem extent_beginValue (taken : beginValue stack token = some next) :
    next.extent = stackExtent stack + token.extent := by
  unfold beginValue at taken
  split at taken <;> cases taken
  · rw [extent, stackExtent_cons, frameExtent, List.map_nil, List.sum_nil, Nat.zero_add]
    exact Nat.add_comm 1 _
  · rfl
  · rw [extent, modeExtent, extent_string, Token.extent]
    exact nofun
  · rfl

theorem extent_takeKey (taken : takeKey stack fields token = some next) :
    next.extent = stackExtent stack + (fieldsHeld fields + 1) := by
  unfold takeKey at taken
  split at taken <;> cases taken
  rfl

theorem extent_takeSeparator_le (taken : takeSeparator value stack token = some next) :
    next.extent ≤ stackExtent stack + value.extent := by
  unfold takeSeparator at taken
  -- A comma puts the value into the innermost frame, a closing mark makes a value of both.
  split at taken <;> cases taken
  · simp only [extent, stackExtent_cons, frameExtent, modeExtent, List.map_cons, List.sum_cons]
    omega
  · simp only [extent, stackExtent_cons, frameExtent, modeExtent, extent_closeArray,
      List.map_cons, List.sum_cons]
    omega
  · simp only [extent, stackExtent_cons, frameExtent, modeExtent, fieldsHeld_cons]
    omega
  · rename_i fields key stack
    have closed := extent_closeObject_le ((key, value) :: fields)
    rw [fieldsHeld_cons] at closed
    dsimp only at closed
    simp only [extent, stackExtent_cons, frameExtent, modeExtent]
    omega

/-- **A token adds the parts that it stands for, at most.** -/
theorem extent_step_le (taken : machine.step token = some next) :
    next.extent ≤ machine.extent + token.extent := by
  obtain ⟨stack, mode⟩ := machine
  unfold step at taken
  -- A frame has its own part from its opening mark on, so all other marks add nothing.
  cases mode with
  | value => exact (extent_beginValue taken).le
  | firstItem =>
    dsimp only at taken
    split at taken
    · cases taken
      simp only [extent, stackExtent_cons, frameExtent, modeExtent, extent_array, List.map_nil,
        List.sum_nil]
      omega
    · exact (extent_beginValue taken).le
  | firstKey =>
    dsimp only at taken
    split at taken
    · cases taken
      exact Nat.le_add_right _ _
    · exact (extent_takeKey taken).le.trans (Nat.le_add_right _ _)
  | nextKey fields => exact (extent_takeKey taken).le.trans (Nat.le_add_right _ _)
  | colon fields key =>
    dsimp only at taken
    split at taken <;> cases taken
    simp only [extent, stackExtent_cons, frameExtent, modeExtent]
    omega
  | after value => exact (extent_takeSeparator_le taken).trans (Nat.le_add_right _ _)

/-- **A text adds no more parts than it has characters**, since every token takes one. -/
theorem extent_run_le {text : List Char} {final : Machine} (ran : machine.run text = some final) :
    final.extent ≤ machine.extent + text.length := by
  fun_induction run machine text with
  | case1 =>
    cases ran
    exact Nat.le_add_right _ _
  | case2 => cases ran
  | case3 => cases ran
  | case4 machine text c rest trimmed token remaining read next taken ih =>
    have whole := ih ran
    have one := extent_step_le taken
    have shorter := Token.next?_length read
    have blanks := length_dropWhile_le isSpace text
    rw [Token.extent_of_next? read] at one
    rw [trimmed, List.length_cons] at blanks
    omega

end Machine

/-- **A value has no more parts than its text has characters.** -/
theorem extent_le_of_parse? {text : String} {json : Json} (read : parse? text = some json) :
    json.extent ≤ text.length := by
  obtain ⟨⟨stack, mode⟩, ran, result⟩ := Option.bind_eq_some_iff.mp read
  have bound := Machine.extent_run_le ran
  unfold Machine.result? at result
  split at result <;> cases result
  rename_i ended
  cases ended
  rw [String.length_toList] at bound
  simpa [Machine.extent, Machine.stackExtent, Machine.modeExtent, Machine.start] using bound

/-! ### Decoded values -/

variable {α : Type} {decode : Json → Option α} {json part : Json} {values : List α} {value : α}

theorem extent_lt_of_mem_items {items : List Json} (member : part ∈ items) :
    part.extent < (array items).extent := by
  rw [extent_array, Nat.lt_succ_iff]
  exact List.le_sum_of_mem (List.mem_map_of_mem member)

theorem extent_lt_of_mem_fields {name : String} {fields : List (String × Json)}
    (member : (name, part) ∈ fields) : part.extent < (object fields).extent := by
  rw [extent_object, Nat.lt_succ_iff]
  exact List.le_sum_of_mem (List.mem_map_of_mem (f := fun field => field.2.extent) member)

/-- A list has no more items than the parts of the value that it is decoded from. -/
theorem length_lt_of_asList? (decoded : asList? decode json = some values) :
    values.length < json.extent := by
  unfold asList? at decoded
  split at decoded
  · rename_i items
    have length := List.length_le_sum_of_one_le (items.map extent)
      (List.forall_mem_map.mpr fun item _ => one_le_extent item)
    rw [List.length_map, (mapM_eq_some_iff_forall₂.mp decoded).length_eq] at length
    rw [extent_array, Nat.lt_succ_iff]
    exact length
  · cases decoded

/-- An item of a list is decoded from a part of the value that the list is decoded from. -/
theorem exists_extent_lt_of_asList? (decoded : asList? decode json = some values)
    (member : value ∈ values) : ∃ item, item.extent < json.extent ∧ decode item = some value := by
  unfold asList? at decoded
  split at decoded
  · rename_i items
    obtain ⟨item, listed, same⟩ := exists_mem_of_mapM decoded member
    exact ⟨item, extent_lt_of_mem_items listed, same⟩
  · cases decoded

theorem mem_of_recordOfFields? {names : List String} {fields : List (String × Json)}
    {given : Record} (isRecord : recordOfFields? names fields = some given) {field : String × Json}
    (member : field ∈ given) : field ∈ fields := by
  unfold recordOfFields? at isRecord
  dsimp only at isRecord
  split at isRecord <;> cases isRecord
  exact List.mem_of_mem_filter member

theorem mem_of_lookup {given : Record} {name : String} (found : given.lookup name = some part) :
    (name, part) ∈ given := by
  obtain ⟨before, since, rfl, _⟩ := List.lookup_eq_some_iff.mp found
  exact List.mem_append_right before List.mem_cons_self

/-- A field of a record is a part of the value that the record is read from. -/
theorem extent_lt_of_lookup {names : List String} {given : Record} {name : String}
    (isRecord : json.asRecord? names = some given) (found : given.lookup name = some part) :
    part.extent < json.extent := by
  have member := mem_of_lookup found
  unfold asRecord? at isRecord
  split at isRecord
  · exact extent_lt_of_mem_fields (mem_of_recordOfFields? isRecord member)
  · split at isRecord <;> cases isRecord
    exact extent_lt_of_mem_items (List.of_mem_zip member).2
  · cases isRecord

theorem optional?_eq_some {given : Record} {name : String} {otherwise : α}
    (decoded : given.optional? name decode otherwise = some value) :
    value = otherwise ∨ ∃ part, given.lookup name = some part ∧ decode part = some value := by
  unfold Record.optional? at decoded
  split at decoded
  · exact .inl (Option.some.inj decoded).symm
  · rename_i part found
    exact .inr ⟨part, found, decoded⟩

/-- A list in a record, empty where it is not given, is bounded by what the record is read from. -/
theorem length_lt_of_optional? {names : List String} {given : Record} {name : String}
    (isRecord : json.asRecord? names = some given)
    (decoded : given.optional? name (asList? decode) [] = some values) :
    values.length < json.extent := by
  rcases optional?_eq_some decoded with rfl | ⟨part, found, listed⟩
  · exact one_le_extent json
  · exact (length_lt_of_asList? listed).trans (extent_lt_of_lookup isRecord found)

theorem exists_extent_lt_of_optional? {names : List String} {given : Record} {name : String}
    (isRecord : json.asRecord? names = some given)
    (decoded : given.optional? name (asList? decode) [] = some values) (member : value ∈ values) :
    ∃ item, item.extent < json.extent ∧ decode item = some value := by
  rcases optional?_eq_some decoded with rfl | ⟨part, found, listed⟩
  · cases member
  · obtain ⟨item, inside, same⟩ := exists_extent_lt_of_asList? listed member
    exact ⟨item, inside.trans (extent_lt_of_lookup isRecord found), same⟩

end FabricConfig.Json
