import FabricConfig.Proofs.Generation.Permutation
/-!
# Names of sites

Which names of sites have an index, and what comes of the others. A plain name is what its kind
requires and one letter; a name that goes on after the letter is taken for the plain one.

* `IsPlainSite`, `GoesOn`, `forall_siteIndex_iff_isPlainSite_iff`: when just the plain names are
  accepted.
* `Encodes.exists_isSite`, `exists_generate_eq_error_of_not_isSite`: a slice or a pad on a site
  without an index ends generation.
* `exists_slot_eq_of_isSliceAt`: slices of one tile whose sites have the same index clash.
* `exists_generate_not_isPlainSite`: a slice on a site whose name goes on is configured.
-/

namespace FabricConfig

variable {db : Database} {design : Design} {cell : Cell} {bel : BelId} {lead site : String}
  {index : Nat}

/-! ### Names -/

/-- A plain name of a site: what its kind requires and the letter with the index. -/
def IsPlainSite (lead site : String) (index : Nat) : Prop :=
  ∃ letter, site.toList = lead.toList ++ [letter] ∧ siteLetters[index]? = some letter

/-- A name that goes on after one of the four letters. -/
def GoesOn (lead site : String) : Prop :=
  ∃ letter rest, letter ∈ siteLetters ∧ rest ≠ [] ∧ site.toList = lead.toList ++ letter :: rest

theorem IsPlainSite.isSite (plain : IsPlainSite lead site index) : IsSite lead site index := by
  obtain ⟨letter, same, place⟩ := plain
  exact ⟨letter, [], same, place⟩

theorem IsSite.isPlainSite (isSite : IsSite lead site index) (ends : ¬GoesOn lead site) :
    IsPlainSite lead site index := by
  obtain ⟨letter, rest, same, place⟩ := isSite
  cases rest with
  | nil => exact ⟨letter, same, place⟩
  | cons next rest =>
    exact absurd ⟨letter, next :: rest, List.mem_of_getElem? place, List.cons_ne_nil _ _, same⟩ ends

theorem GoesOn.not_isPlainSite (goesOn : GoesOn lead site) (index : Nat) :
    ¬IsPlainSite lead site index := by
  obtain ⟨_, rest, _, more, same⟩ := goesOn
  rintro ⟨_, other, _⟩
  obtain ⟨_, none⟩ := List.cons.inj (List.append_cancel_left (same.symm.trans other))
  exact more none

/-- **Just the plain names are accepted unless a name goes on**, and then it is accepted too. -/
theorem forall_siteIndex_iff_isPlainSite_iff :
    (∀ index, siteIndex site lead = .ok index ↔ IsPlainSite lead site index) ↔
      ¬GoesOn lead site := by
  simp only [siteIndex_eq_ok_iff]
  constructor
  · intro plain goesOn
    have plainless := goesOn.not_isPlainSite
    obtain ⟨letter, rest, listed, _, same⟩ := goesOn
    obtain ⟨index, place⟩ := List.mem_iff_getElem?.mp listed
    exact plainless index ((plain index).mp ⟨letter, rest, same, place⟩)
  · exact fun ends index => ⟨fun isSite => isSite.isPlainSite ends, IsPlainSite.isSite⟩

/-! ### Cells -/

/-- What the name of a site starts with for a kind of cell that looks at it. -/
def RequiresLead (kind lead : String) : Prop :=
  kind = "FACADE_SLICE" ∧ lead = "SLICE" ∨ kind = "FACADE_IO" ∧ lead = "PIO"

/-- A slice or a pad that gives settings is on a site with an index. -/
theorem Encodes.exists_isSite {tile kind : String} {features : List Feature}
    (encodes : Encodes db design cell tile features) (placed : cell.bel = some bel)
    (ofKind : design.name cell.kind = .ok kind) (requires : RequiresLead kind lead)
    (named : db.belName bel = .ok site) : ∃ index, IsSite lead site index := by
  cases encodes with
  | slice place kindName _ siteName isSite =>
    cases placed.symm.trans place
    cases ofKind.symm.trans kindName
    cases named.symm.trans siteName
    rcases requires with ⟨_, rfl⟩ | ⟨other, _⟩
    · exact ⟨_, isSite⟩
    · exact absurd other (by decide)
  | pad place kindName siteName isSite =>
    cases placed.symm.trans place
    cases ofKind.symm.trans kindName
    cases named.symm.trans siteName
    rcases requires with ⟨other, _⟩ | ⟨_, rfl⟩
    · exact absurd other (by decide)
    · exact ⟨_, isSite⟩
  | oscillator _ kindName =>
    cases ofKind.symm.trans kindName
    rcases requires with ⟨other, _⟩ | ⟨other, _⟩
    · exact absurd other (by decide)
    · exact absurd other (by decide)

theorem RequiresLead.isHandled {kind : String} (requires : RequiresLead kind lead)
    (placed : cell.bel = some bel) (ofKind : design.name cell.kind = .ok kind) :
    cell.IsHandled design := by
  refine ⟨⟨bel, placed⟩, kind, ?_, ofKind⟩
  rcases requires with ⟨rfl, _⟩ | ⟨rfl, _⟩
  · exact List.mem_cons_self
  · exact List.mem_cons_of_mem _ List.mem_cons_self

/-- **No document is generated with a slice or a pad on a site without an index.** -/
theorem exists_generate_eq_error_of_not_isSite {kind : String} (member : cell ∈ design.cells)
    (placed : cell.bel = some bel) (ofKind : design.name cell.kind = .ok kind)
    (requires : RequiresLead kind lead) (named : db.belName bel = .ok site)
    (unindexed : ∀ index, ¬IsSite lead site index) :
    ∃ failure, (generate db design).2 = .error failure := by
  cases result : (generate db design).2 with
  | error failure => exact ⟨failure, rfl⟩
  | ok document =>
    obtain ⟨_, _, _, stages, _⟩ := generate_eq_ok_iff_exists.mp result
    obtain ⟨_, cellsEnd, _⟩ := exists_makes_planDesign_iff.mp stages
    obtain ⟨fate, ended⟩ := cellsEnd cell member
    rcases encodes_of_makes_planCell ⟨rfl, ended⟩ with ⟨idle, _⟩ | ⟨tile, features, encodes, _⟩
    · exact absurd (requires.isHandled placed ofKind) idle
    · obtain ⟨index, isSite⟩ := encodes.exists_isSite placed ofKind requires named
      exact absurd isSite (unindexed index)

/-- **Slices of one tile whose sites have the same index clash**: each sets what belongs to the
index, however the names of their sites go on. -/
theorem exists_slot_eq_of_isSliceAt {other : Cell} {otherBel : BelId} {tile otherSite : String}
    {features others : List Feature} (slice : cell.IsSliceAt db design bel tile site index)
    (otherSlice : other.IsSliceAt db design otherBel tile otherSite index)
    (encodes : Encodes db design cell tile features)
    (otherEncodes : Encodes db design other tile others) :
    ∃ feature ∈ features, ∃ given ∈ others, feature.slot = given.slot := by
  obtain ⟨low, high, rfl⟩ := encodes.eq_features slice
  obtain ⟨otherLow, otherHigh, rfl⟩ := otherEncodes.eq_features otherSlice
  have shared : ⟨"LSRMUX", .ofGroup "LSR" ".LSRMUX", "LSR"⟩ ∈ Slice.enums := by decide
  have set (cell : Cell) (site : String) (low high : Bits) :
      .enum ((Slice.FeatureName.ofGroup "LSR" ".LSRMUX").render site index)
          (design.textOr cell.parameters "LSRMUX" "LSR") ∈
        Slice.features design cell site index low high :=
    List.mem_cons_of_mem _ (List.mem_cons_of_mem _ (List.mem_map_of_mem shared))
  exact ⟨_, set cell site low high, _, set other otherSite otherLow otherHigh, rfl⟩

/-- **How far a name of a site is looked at.** It has an index when it starts as its kind requires
and one of four letters follows, and is refused else. So just the plain names are accepted, unless the
name goes on after the letter; and where it does not, no document is generated with a slice or a pad
on a site that has no plain name. -/
theorem siteIndex_iff_isPlainSite_and_generate_fails (lead site : String) :
    (∀ index, siteIndex site lead = .ok index ↔ IsSite lead site index) ∧
    (∀ error, siteIndex site lead = .error error ↔ RefusesSite lead site error) ∧
    ((∀ index, siteIndex site lead = .ok index ↔ IsPlainSite lead site index) ↔
      ¬GoesOn lead site) ∧
    ∀ (db : Database) (design : Design) (cell : Cell) (bel : BelId) (kind : String),
      cell ∈ design.cells → cell.bel = some bel → design.name cell.kind = .ok kind →
      RequiresLead kind lead → db.belName bel = .ok site → ¬GoesOn lead site →
      (∀ index, ¬IsPlainSite lead site index) →
        ∃ failure, (generate db design).2 = .error failure := by
  refine ⟨fun _ => siteIndex_eq_ok_iff, fun _ => siteIndex_eq_error_iff,
    forall_siteIndex_iff_isPlainSite_iff, ?_⟩
  intro db design cell bel kind member placed ofKind requires named ends plainless
  have unindexed (index : Nat) : ¬IsSite lead site index :=
    fun isSite => plainless index (isSite.isPlainSite ends)
  exact exists_generate_eq_error_of_not_isSite member placed ofKind requires named unindexed

/-- A device of one location, with a site for slices of this name. -/
def oneSite (site : String) : Json :=
  .object [("variant", .text "1200HC"), ("rows", .integer 1), ("cols", .integer 1),
    ("locations", .array [.object [("row", .integer 0), ("col", .integer 0),
      ("tiles", .array [.object [("name", .text "R1C1:PLC"), ("type", .text "PLC")]]),
      ("bels", .array [.object [("name", .text site), ("type", .text "FACADE_SLICE")]])]])]

/-- A design with a slice on that site. -/
def sliceOn (site : String) : Json :=
  .object [("cells", .array [.object [("name", .text "lut"), ("type", .text "FACADE_SLICE"),
    ("bel", .object [("row", .integer 0), ("col", .integer 0), ("name", .text site)])]])]

/-- A slice on a site of this name, in a design and a device that are loaded. -/
structure IsSliceOn (db : Database) (design : Design) (cell : Cell) (bel : BelId)
    (site : String) : Prop where
  described : Database.load (oneSite site).render = .ok db
  listed : Design.load db (sliceOn site).render = .ok design
  member : cell ∈ design.cells
  placed : cell.bel = some bel
  ofKind : design.name cell.kind = .ok "FACADE_SLICE"
  named : db.belName bel = .ok site

/-- What a configuration has for a setting that slices of the first index share. -/
def sharedSetting? (db : Database) (design : Design) : Option String :=
  (generate db design).2.toOption.bind fun document =>
    (document.settings "R1C1:PLC").enums["LSR0.LSRMUX"]?

theorem exists_isSliceOn (site : String) (value : Option String)
    (loaded : ((loadRendered (oneSite site) (sliceOn site)).bind fun both =>
      both.2.cells[0]?.map fun cell => (cell.bel, (both.2.name cell.kind).toOption,
        (both.1.belName ⟨⟨0, 0⟩, 0⟩).toOption, sharedSetting? both.1 both.2)) =
      some (some ⟨⟨0, 0⟩, 0⟩, some "FACADE_SLICE", some site, value)) :
    ∃ db design cell, IsSliceOn db design cell ⟨⟨0, 0⟩, 0⟩ site ∧
      sharedSetting? db design = value := by
  obtain ⟨⟨db, design⟩, found, rest⟩ := Option.bind_eq_some_iff.mp loaded
  obtain ⟨described, listed⟩ := load_of_loadRendered found
  obtain ⟨cell, held, same⟩ := Option.map_eq_some_iff.mp rest
  obtain ⟨placed, same⟩ := Prod.mk.inj same
  obtain ⟨ofKind, same⟩ := Prod.mk.inj same
  obtain ⟨named, shared⟩ := Prod.mk.inj same
  exact ⟨db, design, cell, ⟨described, listed, Array.mem_of_getElem? held, placed,
    eq_ok_of_toOption ofKind, eq_ok_of_toOption named⟩, shared⟩

/-- Generation fails for a slice on a site without the lead. -/
theorem generate_fails_oneSite :
    ∃ db design cell bel failure, IsSliceOn db design cell bel "LUT4" ∧
      ¬GoesOn "SLICE" "LUT4" ∧ (∀ index, ¬IsPlainSite "SLICE" "LUT4" index) ∧
      (generate db design).2 = .error failure := by
  obtain ⟨db, design, cell, slice, _⟩ := exists_isSliceOn "LUT4" none (by decide +kernel)
  obtain ⟨_, refused, plain, generation⟩ :=
    siteIndex_iff_isPlainSite_and_generate_fails "SLICE" "LUT4"
  have failed : siteIndex "LUT4" "SLICE" = .error (.invalidSite "LUT4" "SLICE") := rfl
  have ends : ¬GoesOn "SLICE" "LUT4" := by
    rintro ⟨letter, rest, _, _, same⟩
    cases (refused _).mp failed with
    | noLetter lacks => exact lacks letter rest same
  have plainless (index : Nat) : ¬IsPlainSite "SLICE" "LUT4" index := by
    rw [← plain.mpr ends index, failed]
    exact nofun
  obtain ⟨failure, result⟩ := generation db design cell _ _ slice.member slice.placed
    slice.ofKind (.inl ⟨rfl, rfl⟩) slice.named ends plainless
  exact ⟨db, design, cell, _, failure, slice, ends, plainless, result⟩

/-- **A name that goes on after the letter is taken for a plain one.** The slice on it sets what
belongs to the site `SLICEA` of its tile. -/
theorem exists_generate_not_isPlainSite :
    (∀ index, ¬IsPlainSite "SLICE" "SLICEAB" index) ∧ siteIndex "SLICEAB" "SLICE" = .ok 0 ∧
      ∃ db design cell bel document, IsSliceOn db design cell bel "SLICEAB" ∧
        (generate db design).2 = .ok document ∧
        (document.settings "R1C1:PLC").enums["LSR0.LSRMUX"]? = some "LSR" := by
  have goesOn : GoesOn "SLICE" "SLICEAB" := ⟨'A', ['B'], by decide, List.cons_ne_nil _ _, rfl⟩
  obtain ⟨db, design, cell, slice, shared⟩ :=
    exists_isSliceOn "SLICEAB" (some "LSR") (by decide +kernel)
  obtain ⟨document, ended, setting⟩ := Option.bind_eq_some_iff.mp shared
  exact ⟨goesOn.not_isPlainSite, rfl, db, design, cell, _, document, slice,
    eq_ok_of_toOption ended, setting⟩

end FabricConfig
