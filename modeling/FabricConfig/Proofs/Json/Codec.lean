import FabricConfig.Json.Decode
import FabricConfig.Proofs.Json.RoundTrip
/-!
# Encodings that read back

* `IsCodec.parse?_render`: what is encoded and written is read and decoded.
* `IsCodec.injective`: what is encoded is told apart by its encodings.
* `isCodec_text`, `IsCodec.list`: the encodings of scalars and of lists.
* `bind_of_eq_some`, `Record.required?_bind`: a record is decoded field by field.
-/

namespace FabricConfig.Json

variable {α : Type} {encode : α → Json} {decode : Json → Option α}

/-- Decoding undoes an encoding, whose values are plain. -/
structure IsCodec (encode : α → Json) (decode : Json → Option α) : Prop where
  plain : ∀ value, (encode value).IsPlain
  inverts : ∀ value, decode (encode value) = some value

/-- **What is encoded and written is read and decoded.** -/
theorem IsCodec.parse?_render (codec : IsCodec encode decode) (value : α) :
    (parse? (encode value).render).bind decode = some value := by
  rw [parse?_render_of_isPlain (codec.plain value)]
  exact codec.inverts value

/-- What is encoded is told apart by its encodings. -/
theorem IsCodec.injective (codec : IsCodec encode decode) : Function.Injective encode := by
  intro first second same
  have read := codec.inverts first
  rw [same, codec.inverts second] at read
  exact (Option.some.inj read).symm

/-! ### Scalars -/

theorem isCodec_text : IsCodec .text asText? := ⟨.text, fun _ => rfl⟩

theorem isCodec_bool : IsCodec .bool asBool? := ⟨.bool, fun _ => rfl⟩

theorem asUInt16?_toNat (n : UInt16) : asUInt16? (.integer n.toNat) = some n := by
  have bounds : (0 : Int) ≤ n.toNat ∧ (n.toNat : Int) < UInt16.size :=
    ⟨Int.natCast_nonneg _, Int.ofNat_lt.mpr n.toNat_lt⟩
  rw [asUInt16?, asInteger?, Option.bind_some, if_pos bounds, Int.toNat_natCast,
    UInt16.ofNat_toNat]

theorem asUInt32?_toNat (n : UInt32) : asUInt32? (.integer n.toNat) = some n := by
  have bounds : (0 : Int) ≤ n.toNat ∧ (n.toNat : Int) < UInt32.size :=
    ⟨Int.natCast_nonneg _, Int.ofNat_lt.mpr n.toNat_lt⟩
  rw [asUInt32?, asInteger?, Option.bind_some, if_pos bounds, Int.toNat_natCast,
    UInt32.ofNat_toNat]

theorem asInt64?_toInt (n : Int64) : asInt64? (.integer n.toInt) = some n := by
  rw [asInt64?, asInteger?, Option.bind_some, if_pos ⟨n.minValue_le_toInt, n.toInt_le⟩,
    Int64.ofInt_toInt]

/-! ### Collections -/

theorem IsCodec.list (codec : IsCodec encode decode) :
    IsCodec (fun values => .array (values.map encode)) (asList? decode) := by
  refine ⟨fun values => .array ?_, fun values => mapM_map_eq_some _ _ codec.inverts values⟩
  exact List.forall_mem_map.mpr fun value _ => codec.plain value

/-! ### Records -/

variable {β : Type} {first : Option α} {next : α → Option β}

theorem bind_of_eq_some {value : α} (found : first = some value) : first >>= next = next value := by
  rw [found]
  rfl

theorem bind_of_eq_none (absent : first = none) : first >>= next = none := by
  rw [absent]
  rfl

/-- A field that is there and decodes is passed on. -/
theorem Record.required?_bind {given : Record} {name : String} {json : Json} {value : α}
    (found : given.lookup name = some json) (decodes : decode json = some value) :
    given.required? name decode >>= next = next value :=
  bind_of_eq_some (by rw [required?, found, Option.bind_some, decodes])

end FabricConfig.Json
