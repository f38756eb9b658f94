import FabricConfig.Proofs.Design.Building
import FabricConfig.Proofs.Generation.Stages
/-!
# What a configuration depends on

Two designs have the same configuration, or fail alike, when they close the same PIPs of the device
and their encoded cells look the same to the encoders. Nothing else in a design has any influence.

* `CellView`, `Design.views`: what the encoders see of the cells of a design.
* `effect_planCell_eq`, `effect_all_map_congr`: cells that look the same have the same effect.
* `Stage.run_congr`, `generate_eq_of_views_eq`: designs that look the same have the same result.
-/

namespace FabricConfig

variable {db : Database} {design first second : Design} {cell firstCell secondCell : Cell}
  {bel : BelId} {kind : String}

open Plan

/-! ### What is seen of a cell -/

/-- The text of a property, if it is given. -/
def Design.text? (design : Design) (properties : Properties) (key : String) : Option String :=
  (design.property? properties key).map Property.display

theorem Design.textOr_eq (design : Design) (properties : Properties) (key otherwise : String) :
    design.textOr properties key otherwise = (design.text? properties key).getD otherwise := rfl

/-- What an encoder sees of a placed cell: the BEL and the properties that the encoder consults,
which are texts but for the contents of look-up tables. -/
inductive CellView where
  | slice (bel : BelId) (tables : List (Option Property)) (texts : List (Option String))
  | pad (bel : BelId) (direction standard : Option String)
  | oscillator (bel : BelId) (frequency : Option String)
deriving DecidableEq

namespace Design

/-- What is seen of a cell of a kind on a BEL, if the kind has an encoder. -/
def viewAs? (design : Design) (cell : Cell) (bel : BelId) (kind : String) : Option CellView :=
  if kind = "FACADE_SLICE" then
    some (.slice bel (Slice.words.map fun word => design.property? cell.parameters word.1)
      (Slice.enums.map fun setting => design.text? cell.parameters setting.key))
  else if kind = "FACADE_IO" then
    some (.pad bel (design.text? cell.parameters "DIR") (design.text? cell.attributes "IO_TYPE"))
  else if kind = "OSCH" then
    some (.oscillator bel (design.text? cell.parameters "NOM_FREQ"))
  else none

/-- What is seen of a cell, if it is placed and its kind has an encoder. -/
def view? (design : Design) (cell : Cell) : Option CellView :=
  match cell.bel, design.name cell.kind with
  | some bel, .ok kind => design.viewAs? cell bel kind
  | _, _ => none

/-- What is seen of the cells of a design, in order. -/
def views (design : Design) : List CellView := design.cells.toList.filterMap design.view?

end Design

/-! ### Encoders -/

theorem Slice.plan_congr
    (tables : Slice.words.map (fun word => first.property? firstCell.parameters word.1) =
      Slice.words.map fun word => second.property? secondCell.parameters word.1)
    (texts : Slice.enums.map (fun setting => first.text? firstCell.parameters setting.key) =
      Slice.enums.map fun setting => second.text? secondCell.parameters setting.key) :
    Slice.encoder.plan db first firstCell bel = Slice.encoder.plan db second secondCell bel := by
  have words (tile site : String) : Slice.words.map (Slice.planWord first firstCell tile site) =
      Slice.words.map (Slice.planWord second secondCell tile site) := by
    refine List.map_congr_left fun word member => ?_
    rw [Slice.planWord, Slice.planWord, Design.wordOrZero, Design.wordOrZero,
      List.map_inj_left.mp tables word member]
  have enums (tile site : String) (index : Nat) :
      (Slice.enums.map fun setting => edit (Slice.enumEdit first firstCell tile site index setting)) =
        Slice.enums.map fun setting =>
          edit (Slice.enumEdit second secondCell tile site index setting) := by
    refine List.map_congr_left fun setting member => ?_
    rw [Slice.enumEdit, Slice.enumEdit, Design.textOr_eq, Design.textOr_eq,
      List.map_inj_left.mp texts setting member]
  simp only [Slice.encoder, words, enums]

theorem Pad.plan_congr
    (direction : first.text? firstCell.parameters "DIR" = second.text? secondCell.parameters "DIR")
    (standard : first.text? firstCell.attributes "IO_TYPE" =
      second.text? secondCell.attributes "IO_TYPE") :
    Pad.encoder.plan db first firstCell bel = Pad.encoder.plan db second secondCell bel := by
  simp only [Pad.encoder, Design.textOr_eq, direction, standard]

theorem Oscillator.plan_congr
    (frequency : first.text? firstCell.parameters "NOM_FREQ" =
      second.text? secondCell.parameters "NOM_FREQ") :
    Oscillator.encoder.plan db first firstCell bel =
      Oscillator.encoder.plan db second secondCell bel := by
  simp only [Oscillator.encoder, Design.textOr_eq, frequency]

/-! ### Cells -/

/-- A cell that is placed has the effect of its encoder, if its kind has one. -/
theorem effect_planCell_of_bel (placed : cell.bel = some bel)
    (named : design.name cell.kind = .ok kind) :
    (planCell db design cell).effect = (Encoder.forKind? kind).elim (Pure.pure ()) fun encoder =>
      (encoder.plan db design cell bel).effect := by
  unfold planCell
  rw [placed, named]
  dsimp only
  rw [ofLookup_ok_bind]
  cases Encoder.forKind? kind with
  | none => rfl
  | some encoder => exact effect_bind_of_silent fun _ => effect_pure _

/-- What is seen of a cell is what the encoder of its kind sees. -/
theorem Design.view?_eq_some {view : CellView} (seen : design.view? cell = some view) :
    ∃ bel kind, cell.bel = some bel ∧ design.name cell.kind = .ok kind ∧
      design.viewAs? cell bel kind = some view := by
  unfold Design.view? at seen
  split at seen
  · rename_i bel kind placed named
    exact ⟨bel, kind, placed, named, seen⟩
  · cases seen

theorem Design.viewAs?_eq_some {view : CellView} (seen : design.viewAs? cell bel kind = some view) :
    (kind = "FACADE_SLICE" ∧ view = .slice bel
      (Slice.words.map fun word => design.property? cell.parameters word.1)
      (Slice.enums.map fun setting => design.text? cell.parameters setting.key)) ∨
    (kind = "FACADE_IO" ∧ view = .pad bel (design.text? cell.parameters "DIR")
      (design.text? cell.attributes "IO_TYPE")) ∨
    (kind = "OSCH" ∧ view = .oscillator bel (design.text? cell.parameters "NOM_FREQ")) := by
  unfold Design.viewAs? at seen
  by_cases slice : kind = "FACADE_SLICE"
  · rw [if_pos slice] at seen
    exact .inl ⟨slice, (Option.some.inj seen).symm⟩
  rw [if_neg slice] at seen
  by_cases pad : kind = "FACADE_IO"
  · rw [if_pos pad] at seen
    exact .inr (.inl ⟨pad, (Option.some.inj seen).symm⟩)
  rw [if_neg pad] at seen
  by_cases oscillator : kind = "OSCH"
  · rw [if_pos oscillator] at seen
    exact .inr (.inr ⟨oscillator, (Option.some.inj seen).symm⟩)
  · rw [if_neg oscillator] at seen
    cases seen

/-- Nothing is seen of a cell when its kind has no encoder. -/
theorem forKind?_eq_none_of_viewAs?_eq_none (unseen : design.viewAs? cell bel kind = none) :
    Encoder.forKind? kind = none := by
  unfold Design.viewAs? at unseen
  rw [Encoder.forKind?_eq]
  by_cases slice : kind = "FACADE_SLICE"
  · rw [if_pos slice] at unseen
    cases unseen
  rw [if_neg slice] at unseen ⊢
  by_cases pad : kind = "FACADE_IO"
  · rw [if_pos pad] at unseen
    cases unseen
  rw [if_neg pad] at unseen ⊢
  by_cases oscillator : kind = "OSCH"
  · rw [if_pos oscillator] at unseen
    cases unseen
  · rw [if_neg oscillator]

/-- A cell of which nothing is seen has no effect. -/
theorem effect_planCell_of_view?_eq_none (named : design.IsNamed) (member : cell ∈ design.cells)
    (unseen : design.view? cell = none) : (planCell db design cell).effect = Pure.pure () := by
  obtain ⟨⟨name, called⟩, kind, kindHeld⟩ := named cell member
  have cellNamed : design.name cell.name = .ok name := by rw [Design.name, called]
  have kindNamed : design.name cell.kind = .ok kind := by rw [Design.name, kindHeld]
  cases placed : cell.bel with
  | none =>
    unfold planCell
    rw [placed, cellNamed]
    rfl
  | some bel =>
    simp only [Design.view?, placed, kindNamed] at unseen
    rw [effect_planCell_of_bel placed kindNamed, forKind?_eq_none_of_viewAs?_eq_none unseen]
    rfl

/-- **Cells that look the same have the same effect.** -/
theorem effect_planCell_eq {view : CellView} (firstSeen : first.view? firstCell = some view)
    (secondSeen : second.view? secondCell = some view) :
    (planCell db first firstCell).effect = (planCell db second secondCell).effect := by
  obtain ⟨_, _, firstPlaced, firstNamed, firstSeen⟩ := Design.view?_eq_some firstSeen
  obtain ⟨_, _, secondPlaced, secondNamed, secondSeen⟩ := Design.view?_eq_some secondSeen
  rw [effect_planCell_of_bel firstPlaced firstNamed, effect_planCell_of_bel secondPlaced secondNamed]
  rcases Design.viewAs?_eq_some firstSeen with ⟨rfl, rfl⟩ | ⟨rfl, rfl⟩ | ⟨rfl, rfl⟩
  · rcases Design.viewAs?_eq_some secondSeen with ⟨rfl, same⟩ | ⟨rfl, same⟩ | ⟨rfl, same⟩
    · obtain ⟨rfl, tables, texts⟩ := CellView.slice.inj same
      exact congrArg effect (Slice.plan_congr tables texts)
    · cases same
    · cases same
  · rcases Design.viewAs?_eq_some secondSeen with ⟨rfl, same⟩ | ⟨rfl, same⟩ | ⟨rfl, same⟩
    · cases same
    · obtain ⟨rfl, direction, standard⟩ := CellView.pad.inj same
      exact congrArg effect (Pad.plan_congr direction standard)
    · cases same
  · rcases Design.viewAs?_eq_some secondSeen with ⟨rfl, same⟩ | ⟨rfl, same⟩ | ⟨rfl, same⟩
    · cases same
    · cases same
    · obtain ⟨rfl, frequency⟩ := CellView.oscillator.inj same
      exact congrArg effect (Oscillator.plan_congr frequency)

/-! ### Designs -/

/-- **Plans in turn have the same effect when what is seen of their items is the same**, if an item
of which nothing is seen has no effect. -/
theorem effect_all_map_congr {α β ν γ δ : Type} {items : List α} {others : List β}
    {plan : α → Plan γ} {otherPlan : β → Plan δ} {view : α → Option ν} {otherView : β → Option ν}
    (silent : ∀ item ∈ items, view item = none → (plan item).effect = Pure.pure ())
    (otherSilent : ∀ item ∈ others, otherView item = none → (otherPlan item).effect = Pure.pure ())
    (alike : ∀ item other seen, view item = some seen → otherView other = some seen →
      (plan item).effect = (otherPlan other).effect)
    (same : items.filterMap view = others.filterMap otherView) :
    (all (items.map plan)).effect = (all (others.map otherPlan)).effect := by
  induction items generalizing others with
  | nil =>
    have unseen := List.filterMap_eq_nil_iff.mp same.symm
    exact (effect_all_map_of_silent fun item inside =>
      otherSilent item inside (unseen item inside)).symm
  | cons item items ih =>
    have itemsSilent : ∀ other ∈ items, view other = none → (plan other).effect = Pure.pure () :=
      fun other member => silent other (List.mem_cons_of_mem _ member)
    rw [List.map_cons, effect_all_cons]
    cases seen : view item with
    | none =>
      rw [List.filterMap_cons_none seen] at same
      rw [silent item List.mem_cons_self seen, pure_bind_const]
      exact ih itemsSilent otherSilent same
    | some found =>
      -- Items of which nothing is seen may stand before the counterpart of this one.
      rw [List.filterMap_cons_some seen, eq_comm, List.filterMap_eq_cons_iff] at same
      obtain ⟨unseen, other, later, rfl, hidden, otherSeen, same⟩ := same
      have unseenSilent : ∀ before ∈ unseen, (otherPlan before).effect = Pure.pure () :=
        fun before inside =>
          otherSilent before (List.mem_append_left _ inside) (hidden before inside)
      have laterSilent : ∀ after ∈ later, otherView after = none →
          (otherPlan after).effect = Pure.pure () := fun after inside =>
        otherSilent after (List.mem_append_right _ (List.mem_cons_of_mem _ inside))
      rw [List.map_append, effect_all_map_append_of_silent unseenSilent, List.map_cons,
        effect_all_cons, alike item other found seen otherSeen,
        ih itemsSilent laterSilent same.symm]

theorem planArcs_congr (routed : ∀ pip, IsRouted db first pip ↔ IsRouted db second pip) :
    planArcs db first = planArcs db second := by
  have same : needsArc db first = needsArc db second := by
    funext pip
    rw [Bool.eq_iff_iff, needsArc_eq_true_iff, needsArc_eq_true_iff]
    exact routed pip
  rw [planArcs, planArcs, pipsWithArcs, pipsWithArcs, same]

/-- The notes at the end of the stage of the cells have no effect. -/
theorem effect_planCells (db : Database) (design : Design) :
    (planCells db design).effect = (all (design.cells.toList.map (planCell db design))).effect := by
  refine effect_bind_of_silent fun fates => ?_
  rw [effect_bind_of_silent fun _ => effect_pure _]
  exact effect_all_map_of_silent fun _ _ => effect_report _

theorem effect_planCells_congr (firstNamed : first.IsNamed) (secondNamed : second.IsNamed)
    (views : first.views = second.views) :
    (planCells db first).effect = (planCells db second).effect := by
  rw [effect_planCells, effect_planCells]
  refine effect_all_map_congr (fun cell member => ?_) (fun cell member => ?_)
    (fun _ _ _ => effect_planCell_eq) views
  · exact effect_planCell_of_view?_eq_none firstNamed (Array.mem_toList_iff.mp member)
  · exact effect_planCell_of_view?_eq_none secondNamed (Array.mem_toList_iff.mp member)

/-- **Every stage does the same for designs that look the same.** -/
theorem Stage.run_congr (firstNamed : first.IsNamed) (secondNamed : second.IsNamed)
    (routed : ∀ pip, IsRouted db first pip ↔ IsRouted db second pip)
    (views : first.views = second.views) : Stage.run db first = Stage.run db second := by
  funext stage document
  cases stage with
  | base => rfl
  | arcs => exact congrArg (·.run document) (planArcs_congr routed)
  | cells => exact Plan.run_congr (effect_planCells_congr firstNamed secondNamed views) document

/-- **A configuration depends on the closed PIPs and on what the encoders see.** Two designs that
close the same PIPs of the device, and of whose cells the same is seen, have the same configuration,
or generation ends with the same error. The cells of every design that is built are named. -/
theorem generate_eq_of_views_eq (firstNamed : first.IsNamed) (secondNamed : second.IsNamed)
    (routed : ∀ pip, IsRouted db first pip ↔ IsRouted db second pip)
    (views : first.views = second.views) : (generate db first).2 = (generate db second).2 := by
  rw [generate_eq_run, generate_eq_run]
  unfold Stage.runAll
  rw [Stage.run_congr firstNamed secondNamed routed views]

/-- The PIP and the BEL of `twoRows`, and a PIP that it does not have. -/
def innerPip : PipId := ⟨⟨1, 0⟩, 0⟩

def innerBel : BelId := ⟨⟨1, 0⟩, 0⟩

def strayPip : PipId := ⟨⟨7, 7⟩, 7⟩

/-- A slice and a net through the PIP. -/
def plainDesign : Design :=
  let celled := (({} : Design).addCell "lut" "FACADE_SLICE").2
  let placed := (celled.place 0 innerBel).1
  let routed := (placed.setParameter 0 "LUT0_INITVAL" (.text "0b101")).1
  ((routed.addNet "net").2.bindPip 0 innerPip).1

/-- The same under other names, among other cells, with another net that the PIP is bound to first,
and with what no encoder consults. -/
def burdenedDesign : Design :=
  let first := (({} : Design).addNet "spare").2.addNet "route" |>.2
  let bound := ((first.bindPip 0 innerPip).1.bindPip 0 strayPip).1
  let routed := (bound.bindPip 1 innerPip).1
  let idle := (routed.addCell "idle" "FACADE_SLICE").2
  let other := ((idle.addCell "loop" "EHXPLLJ").2.place 1 innerBel).1
  let placed := ((other.addCell "renamed" "FACADE_SLICE").2.place 2 innerBel).1
  let given := (placed.setParameter 2 "LUT0_INITVAL" (.text "0b101")).1
  (given.setAttribute 2 "MODE" (.text "CCU2")).1

theorem isBuilt_plainDesign : plainDesign.IsBuilt [0] := by
  have celled := (Design.IsBuilt.empty.addCell "lut" "FACADE_SLICE").place 0 innerBel
  have routed := (celled.setParameter 0 "LUT0_INITVAL" (.text "0b101")).addNet "net"
  exact routed.bindPip List.mem_cons_self innerPip

theorem isBuilt_burdenedDesign : burdenedDesign.IsBuilt [1, 0] := by
  have nets : Design.IsBuilt (({} : Design).addNet "spare" |>.2.addNet "route").2 [1, 0] :=
    (Design.IsBuilt.empty.addNet "spare").addNet "route"
  have first : 0 ∈ ([1, 0] : List NetId) := by decide
  have second : 1 ∈ ([1, 0] : List NetId) := by decide
  have routed := ((nets.bindPip first innerPip).bindPip first strayPip).bindPip second innerPip
  have idle := (routed.addCell "idle" "FACADE_SLICE").addCell "loop" "EHXPLLJ"
  have placed := ((idle.place 1 innerBel).addCell "renamed" "FACADE_SLICE").place 2 innerBel
  exact (placed.setParameter 2 "LUT0_INITVAL" (.text "0b101")).setAttribute 2 "MODE" (.text "CCU2")

/-- A PIP is closed when it is one of the keys of the bindings and is no fixed connection. -/
theorem isRouted_iff_mem_keys {pip : PipId} : IsRouted db design pip ↔
    pip ∈ design.bindings.keys ∧ ∃ entry, db.pip pip = .ok entry ∧ entry.pipClass = .configurable := by
  rw [IsRouted, Std.ExtTreeMap.mem_keys, Std.ExtTreeMap.mem_iff_isSome_getElem?,
    Option.isSome_iff_exists]
  rfl

theorem generate_eq_of_views_eq_burdened :
    ∃ db document, Database.load twoRows.render = .ok db ∧
      (generate db plainDesign).2 = .ok document ∧ (generate db burdenedDesign).2 = .ok document := by
  have ready : ((loadRendered twoRows routedSlice).bind fun (db, _) =>
      if (db.pip strayPip).toOption.isNone then (generate db plainDesign).2.toOption
      else none).isSome := by decide +kernel
  obtain ⟨document, found⟩ := Option.isSome_iff_exists.mp ready
  obtain ⟨⟨db, design⟩, loaded, rest⟩ := Option.bind_eq_some_iff.mp found
  rw [Option.ite_none_right_eq_some] at rest
  obtain ⟨stray, made⟩ := rest
  have views : plainDesign.views = burdenedDesign.views := by decide +kernel
  have plainKeys : plainDesign.bindings.keys = [innerPip] := by decide +kernel
  have burdenedKeys : burdenedDesign.bindings.keys = [innerPip, strayPip] := by decide +kernel
  have routed : ∀ pip, IsRouted db plainDesign pip ↔ IsRouted db burdenedDesign pip := by
    intro pip
    rw [isRouted_iff_mem_keys, isRouted_iff_mem_keys, plainKeys, burdenedKeys]
    refine and_congr_left fun ⟨entry, there, _⟩ => ?_
    have known : pip ≠ strayPip := by
      rintro rfl
      rw [there] at stray
      cases stray
    simp [known]
  have same := generate_eq_of_views_eq isBuilt_plainDesign.isNamed isBuilt_burdenedDesign.isNamed
    routed views
  have generated := eq_ok_of_toOption made
  exact ⟨db, document, (load_of_loadRendered loaded).1, generated, same ▸ generated⟩

end FabricConfig
