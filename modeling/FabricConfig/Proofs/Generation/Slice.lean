import FabricConfig.Proofs.Device.Entries
import FabricConfig.Proofs.Generation.Permutation
/-!
# What a slice makes of a document

The plan of a slice, carried out on any document: when it comes to its end, and what the document
is then. It has the fourteen settings of the slice in one tile, and all else as it was.

* `Design.IsWordOrAbsent`: a property that reads as a word, or is not given.
* `Slice.IsWritten`: a document before and after the settings of a slice.
* `Slice.run_plan_iff_covers_and_isWritten`: what the plan needs, and what it writes.
-/

namespace FabricConfig

variable {db : Database} {design : Design} {cell : Cell} {bel : BelId} {site : String}
  {before after : Document}

open Plan

/-! ### Words -/

/-- Whether the property under a key reads as a word, if it is given at all. -/
def Design.IsWordOrAbsent (design : Design) (properties : Properties) (key : String)
    (width : Nat) : Prop :=
  ∀ property, design.property? properties key = some property →
    ∃ bits, property.word width = .ok bits

theorem Design.exists_wordOrZero_iff {properties : Properties} {key : String} {width : Nat} :
    (∃ bits, design.wordOrZero properties key width = .ok bits) ↔
      design.IsWordOrAbsent properties key width := by
  unfold Design.wordOrZero Design.IsWordOrAbsent
  cases design.property? properties key with
  | none => exact iff_of_true ⟨_, rfl⟩ nofun
  | some property =>
    refine ⟨fun read other same => ?_, fun reads => reads property rfl⟩
    rwa [← Option.some.inj same]

theorem Design.length_of_wordOrZero {properties : Properties} {key : String} {width : Nat}
    {bits : Bits} (read : design.wordOrZero properties key width = .ok bits) :
    bits.length = width := by
  obtain ⟨_, _, _, rfl⟩ := Design.wordOrZero_eq_ok_iff.mp read
  exact Bits.length_ofNat _ _

/-! ### The document -/

/-- What the plan of a slice comes to: the tile and the index that it finds, the words that it
reads, and the settings by which it changes the document. -/
structure Slice.IsWritten (db : Database) (design : Design) (cell : Cell) (bel : BelId)
    (site tile : String) (index : Nat) (low high : Bits) (before after : Document) : Prop where
  inTile : db.IsFirstTile bel.location "PLC" tile
  indexed : siteIndex site "SLICE" = .ok index
  lowTable : design.wordOrZero cell.parameters "LUT0_INITVAL" 16 = .ok low
  highTable : design.wordOrZero cell.parameters "LUT1_INITVAL" 16 = .ok high
  lengths : low.length = 16 ∧ high.length = 16
  /-- No setting overwrites another. -/
  different : (Slice.features design cell site index low high).length = 14 ∧
    ((Slice.features design cell site index low high).map Feature.slot).Nodup
  putsOnly : before.PutsOnly tile (Slice.features design cell site index low high) after

/-- The plan of a slice makes its settings of the words that it reads. -/
theorem Slice.makes_plan_iff_wordOrZero (named : db.belName bel = .ok site) {edits : List Edit} :
    (Slice.encoder.plan db design cell bel).Makes edits () ↔
      ∃ tile index low high, db.tileAt bel.location "PLC" = .ok tile ∧
        siteIndex site "SLICE" = .ok index ∧
        design.wordOrZero cell.parameters "LUT0_INITVAL" 16 = .ok low ∧
        design.wordOrZero cell.parameters "LUT1_INITVAL" 16 = .ok high ∧
        edits = .create tile :: (Slice.features design cell site index low high).map (.set tile) := by
  simp only [Slice.makes_plan_iff, siteIndex_eq_ok_iff, Design.wordOrZero_eq_ok_iff]
  constructor
  · rintro ⟨tile, _, index, low, high, inTile, sameName, isSite, lowGiven, highGiven, rfl⟩
    cases named.symm.trans sameName
    exact ⟨tile, index, _, _, inTile, isSite, ⟨low, lowGiven.1, lowGiven.2, rfl⟩,
      ⟨high, highGiven.1, highGiven.2, rfl⟩, rfl⟩
  · rintro ⟨tile, index, _, _, inTile, isSite, ⟨low, lowGives, lowFits, rfl⟩,
      ⟨high, highGives, highFits, rfl⟩, rfl⟩
    exact ⟨tile, site, index, low, high, inTile, named, isSite, ⟨lowGives, lowFits⟩,
      ⟨highGives, highFits⟩, rfl⟩

/-- Making the settings of a slice changes a document by just these. -/
theorem Slice.putsOnly_features {index : Nat} (isSite : IsSite "SLICE" site index)
    (tile : String) (low high : Bits) (before : Document) :
    before.PutsOnly tile (Slice.features design cell site index low high)
      (before.applyAll
        (.create tile :: (Slice.features design cell site index low high).map (.set tile))) :=
  SetsAll.putsOnly (.inr rfl) (List.cons_ne_nil _ _) (Slice.slots_nodup isSite low high) before

/-- **What the plan of a slice writes**, and that it writes it only then. -/
theorem Slice.run_plan_eq_ok_iff (named : db.belName bel = .ok site) :
    (Slice.encoder.plan db design cell bel).run before = .ok after ↔
      ∃ tile index low high,
        Slice.IsWritten db design cell bel site tile index low high before after := by
  constructor
  · intro ran
    obtain ⟨⟨_, ended⟩, rfl⟩ := run_eq_ok_iff.mp ran
    obtain ⟨tile, index, low, high, inTile, indexed, lowTable, highTable, made⟩ :=
      (Slice.makes_plan_iff_wordOrZero named).mp ⟨rfl, ended⟩
    have isSite := siteIndex_eq_ok_iff.mp indexed
    refine ⟨tile, index, low, high, ?_⟩
    rw [made]
    exact {
      inTile := Database.tileAt_eq_ok_iff_isFirstTile.mp inTile
      indexed
      lowTable
      highTable
      lengths := ⟨Design.length_of_wordOrZero lowTable, Design.length_of_wordOrZero highTable⟩
      different := ⟨Slice.length_features .., Slice.slots_nodup isSite low high⟩
      putsOnly := Slice.putsOnly_features isSite tile low high before }
  · rintro ⟨tile, index, low, high, written⟩
    have inTile := Database.tileAt_eq_ok_iff_isFirstTile.mpr written.inTile
    have isSite := siteIndex_eq_ok_iff.mp written.indexed
    have made := (Slice.makes_plan_iff_wordOrZero named).mpr ⟨tile, index, low, high, inTile,
      written.indexed, written.lowTable, written.highTable, rfl⟩
    rw [made.run before]
    -- The settings determine the document, so it is the one that the plan makes.
    exact congrArg Except.ok
      ((Slice.putsOnly_features isSite tile low high before).unique written.putsOnly)

/-- **What the plan of a slice needs**: a tile, an index in the name of the site, and two words. -/
theorem Slice.exists_run_plan_iff (named : db.belName bel = .ok site) :
    (∃ after, (Slice.encoder.plan db design cell bel).run before = .ok after) ↔
      db.Covers bel.location "PLC" ∧ (∃ index, siteIndex site "SLICE" = .ok index) ∧
        design.IsWordOrAbsent cell.parameters "LUT0_INITVAL" 16 ∧
        design.IsWordOrAbsent cell.parameters "LUT1_INITVAL" 16 := by
  rw [← Database.exists_tileAt_iff_covers, ← Design.exists_wordOrZero_iff,
    ← Design.exists_wordOrZero_iff]
  constructor
  · rintro ⟨after, ran⟩
    obtain ⟨⟨_, ended⟩, _⟩ := run_eq_ok_iff.mp ran
    obtain ⟨tile, index, low, high, inTile, indexed, lowTable, highTable, _⟩ :=
      (Slice.makes_plan_iff_wordOrZero named).mp ⟨rfl, ended⟩
    exact ⟨⟨tile, inTile⟩, ⟨index, indexed⟩, ⟨low, lowTable⟩, ⟨high, highTable⟩⟩
  · rintro ⟨⟨tile, inTile⟩, ⟨index, indexed⟩, ⟨low, lowTable⟩, ⟨high, highTable⟩⟩
    have made := (Slice.makes_plan_iff_wordOrZero named).mpr
      ⟨tile, index, low, high, inTile, indexed, lowTable, highTable, rfl⟩
    exact ⟨_, made.run before⟩

/-- The plan of a slice reads nothing of the cell but its parameters. -/
theorem Slice.plan_eq_of_parameters_eq {other : Cell} (same : other.parameters = cell.parameters) :
    Slice.encoder.plan db design other bel = Slice.encoder.plan db design cell bel :=
  Slice.plan_congr (by rw [same]) (by rw [same])

/-- **The plan of a slice is exact.** On a BEL of the device, it comes to its end when a tile of kind
`PLC` covers the location, the name of the site has an index, and each table is a word or is not
given. Then it sets fourteen features of different slots in the first such tile, and leaves all else
of the document as it was. Attributes make no difference. -/
theorem Slice.run_plan_iff_covers_and_isWritten (named : db.belName bel = .ok site)
    (before : Document) :
    ((∃ after, (Slice.encoder.plan db design cell bel).run before = .ok after) ↔
      db.Covers bel.location "PLC" ∧ (∃ index, siteIndex site "SLICE" = .ok index) ∧
        design.IsWordOrAbsent cell.parameters "LUT0_INITVAL" 16 ∧
        design.IsWordOrAbsent cell.parameters "LUT1_INITVAL" 16) ∧
    (∀ after, (Slice.encoder.plan db design cell bel).run before = .ok after ↔
      ∃ tile index low high,
        Slice.IsWritten db design cell bel site tile index low high before after) ∧
    ∀ other : Cell, other.parameters = cell.parameters →
      Slice.encoder.plan db design other bel = Slice.encoder.plan db design cell bel :=
  ⟨Slice.exists_run_plan_iff named, fun _ => Slice.run_plan_eq_ok_iff named,
    fun _ => Slice.plan_eq_of_parameters_eq⟩

/-- The enumerated settings of the slice of `lowFirst` on the site `SLICED`. -/
def upperSlice : List (String × String) :=
  [("CLK3.CLKMUX", "0"), ("LSR3.LSRMUX", "LSR"), ("LSR3.LSRONMUX", "LSRMUX"),
    ("LSR3.SRMODE", "LSR_OVER_CE"), ("SLICED.CEMUX", "1"), ("SLICED.GSR", "ENABLED"),
    ("SLICED.MODE", "CCU2"), ("SLICED.REG0.REGSET", "RESET"), ("SLICED.REG0.SD", "0"),
    ("SLICED.REG1.REGSET", "RESET"), ("SLICED.REG1.SD", "0"), ("SLICED.REGMODE", "FF")]

theorem Slice.run_plan_sharedTile :
    ∃ cell after, (Design.build lowFirst).cells[2]? = some cell ∧
      sharedTile.belName ⟨⟨0, 0⟩, 1⟩ = .ok "SLICED" ∧
      (Slice.encoder.plan sharedTile (Design.build lowFirst) cell ⟨⟨0, 0⟩, 1⟩).run {} = .ok after ∧
      (∃ tile index low high, Slice.IsWritten sharedTile (Design.build lowFirst) cell ⟨⟨0, 0⟩, 1⟩
        "SLICED" tile index low high {} after) ∧
      (after.settings "R1C1:PLC").words.toList =
        [("SLICED.K0.INIT", Bits.zero 16), ("SLICED.K1.INIT", Bits.zero 16)] ∧
      (after.settings "R1C1:PLC").enums.toList = upperSlice := by
  have named : sharedTile.belName ⟨⟨0, 0⟩, 1⟩ = .ok "SLICED" :=
    eq_ok_of_toOption (by decide +kernel)
  have settled : ((Design.build lowFirst).cells[2]?.bind fun cell =>
      ((Slice.encoder.plan sharedTile (Design.build lowFirst) cell ⟨⟨0, 0⟩, 1⟩).run
        {}).toOption.map fun after => ((after.settings "R1C1:PLC").words.toList,
          (after.settings "R1C1:PLC").enums.toList)) =
      some ([("SLICED.K0.INIT", Bits.zero 16), ("SLICED.K1.INIT", Bits.zero 16)], upperSlice) := by
    decide +kernel
  obtain ⟨cell, held, made⟩ := Option.bind_eq_some_iff.mp settled
  obtain ⟨after, ended, tables⟩ := Option.map_eq_some_iff.mp made
  obtain ⟨words, enums⟩ := Prod.mk.inj tables
  have ran := eq_ok_of_toOption ended
  have written := ((Slice.run_plan_iff_covers_and_isWritten named {}).2.1 after).mp ran
  exact ⟨cell, after, held, named, ran, written, words, enums⟩

end FabricConfig
