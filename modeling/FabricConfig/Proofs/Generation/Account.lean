import FabricConfig.Proofs.CommandLine.Findings
import FabricConfig.Proofs.Generation.Exactness
import FabricConfig.Proofs.Maps
import Mathlib.Algebra.BigOperators.Group.List.Lemmas
import Mathlib.Data.List.Induction
/-!
# Every cell is accounted for

A cell is encoded, or a warning or a note tells that it is not: a cell without a BEL is warned of
when it is met, and the cells of a kind without an encoder are noted together at the end. Encoders
and arcs tell nothing.

* `Meets`, `MeetAll`: what becomes of a cell and of cells in turn, and what is told of it.
* `meets_of_planCell`, `meetAll_of_outcome`: that the plans do just this.
* `MeetAll.tally`, `MeetAll.count_unhandled`: the numbers of cells by their fate.
* `getElem?_unhandledKinds`, `foldr_unhandledKinds`: the kinds in the notes, and their counts.
* `accounts_planCells`, `stopsAt_planCells`: the stage of the cells, whichever way it ends.
* `planCells_accounts_and_generate_adds`: the same, with what generation adds.
-/

namespace FabricConfig

variable {db : Database} {design : Design} {cell : Cell} {cells : List Cell}

open Plan

/-! ### Silence -/

theorem log_eq_nil_of_tellsOnly {α : Type} {plan : Plan α}
    (silent : plan.TellsOnly fun _ => False) : plan.log = [] :=
  List.eq_nil_iff_forall_not_mem.mpr silent

theorem tellsOnly_planArc {allowed : Diagnostic → Prop} (pip : PipId) :
    (planArc db pip).TellsOnly allowed := by
  refine tellsOnly_bind (tellsOnly_ofLookup _) fun _ => ?_
  refine tellsOnly_bind (tellsOnly_ofTile _) fun _ => ?_
  refine tellsOnly_bind (tellsOnly_ofLookup _) fun _ => ?_
  exact tellsOnly_bind (tellsOnly_ofLookup _) fun _ => tellsOnly_edit _

theorem Encoder.tellsOnly_plan {allowed : Diagnostic → Prop} {encoder : Encoder}
    (registered : encoder ∈ Encoder.registered) (cell : Cell) (bel : BelId) :
    (encoder.plan db design cell bel).TellsOnly allowed := by
  rcases Encoder.mem_registered_iff.mp registered with rfl | rfl | rfl
  · refine tellsOnly_bind (tellsOnly_ofTile _) fun _ => ?_
    refine tellsOnly_bind (tellsOnly_ofLookup _) fun _ => ?_
    refine tellsOnly_bind (tellsOnly_ofResult _) fun _ => ?_
    refine tellsOnly_bind (tellsOnly_edit _) fun _ => ?_
    refine tellsOnly_bind (tellsOnly_all_map fun word => ?_) fun _ => ?_
    · exact tellsOnly_bind (tellsOnly_ofResult _) fun _ => tellsOnly_edit _
    · exact tellsOnly_bind (tellsOnly_all_map fun _ => tellsOnly_edit _) fun _ => tellsOnly_pure _
  · refine tellsOnly_bind (tellsOnly_ofLookup _) fun _ => ?_
    refine tellsOnly_bind (tellsOnly_ofResult _) fun _ => ?_
    refine tellsOnly_bind (tellsOnly_ofResult _) fun _ => ?_
    exact tellsOnly_bind (tellsOnly_ofTile _) fun _ => tellsOnly_edit _
  · refine tellsOnly_bind (tellsOnly_ofTile _) fun _ => ?_
    exact tellsOnly_bind (tellsOnly_edit _) fun _ => tellsOnly_edit _

/-! ### One cell -/

/-- What becomes of a cell, and what is told of it when it is met. -/
inductive Meets (design : Design) (cell : Cell) : CellFate → Log → Prop
  | unplaced {name : String} (loose : cell.bel = none) (named : design.name cell.name = .ok name) :
      Meets design cell .unplaced [unplacedWarning name]
  | encoded {bel : BelId} {kind : String} {encoder : Encoder} (placed : cell.bel = some bel)
      (named : design.name cell.kind = .ok kind) (known : Encoder.forKind? kind = some encoder) :
      Meets design cell .encoded []
  | unhandled {bel : BelId} {kind : String} (placed : cell.bel = some bel)
      (named : design.name cell.kind = .ok kind) (unknown : Encoder.forKind? kind = none) :
      Meets design cell (.unhandled kind) []

/-- The plan of a cell that is not placed. -/
theorem planCell_of_unplaced (loose : cell.bel = none) : planCell db design cell =
    ofLookup (design.name cell.name) >>= fun name =>
      report (unplacedWarning name) >>= fun _ => Pure.pure .unplaced := by
  unfold planCell
  rw [loose]

/-- Of a cell that is placed nothing is told when it is met. -/
theorem log_planCell_of_placed {bel : BelId} (placed : cell.bel = some bel) :
    (planCell db design cell).log = [] := by
  unfold planCell
  rw [placed]
  refine log_eq_nil_of_tellsOnly (tellsOnly_bind (tellsOnly_ofLookup _) fun kind => ?_)
  cases known : Encoder.forKind? kind with
  | none => exact tellsOnly_pure _
  | some encoder =>
    exact tellsOnly_bind (Encoder.tellsOnly_plan (Encoder.forKind?_eq_some known).1 cell bel)
      fun _ => tellsOnly_pure _

/-- **The plan of a cell that comes to its end** tells only if the cell is not placed. -/
theorem meets_of_planCell {fate : CellFate} (ended : (planCell db design cell).outcome = .ok fate) :
    Meets design cell fate (planCell db design cell).log := by
  cases placed : cell.bel with
  | none =>
    rw [planCell_of_unplaced placed] at ended ⊢
    cases named : design.name cell.name with
    | error fault =>
      rw [named] at ended
      cases ended
    | ok name =>
      rw [named] at ended
      cases ended
      exact .unplaced placed named
  | some bel =>
    rw [log_planCell_of_placed placed]
    obtain ⟨kind, named, made⟩ := (makes_planCell_of_bel placed).mp ⟨rfl, ended⟩
    cases known : Encoder.forKind? kind with
    | none =>
      rw [known] at made
      rw [made.2]
      exact .unhandled placed named known
    | some encoder =>
      rw [known] at made
      rw [made.2]
      exact .encoded placed named known

/-- A cell that fails is not told of. -/
theorem log_planCell_of_error {failure : Failure}
    (failed : (planCell db design cell).outcome = .error failure) :
    (planCell db design cell).log = [] := by
  cases placed : cell.bel with
  | some bel => exact log_planCell_of_placed placed
  | none =>
    rw [planCell_of_unplaced placed] at failed ⊢
    cases named : design.name cell.name with
    | error fault => rfl
    | ok name =>
      rw [named] at failed
      cases failed

/-! ### Cells in turn -/

/-- What becomes of cells in turn, and what is told when they are met. -/
inductive MeetAll (design : Design) : List Cell → List CellFate → Log → Prop
  | nil : MeetAll design [] [] []
  | cons {cell : Cell} {cells : List Cell} {fate : CellFate} {fates : List CellFate}
      {told log : Log} (first : Meets design cell fate told)
      (rest : MeetAll design cells fates log) :
      MeetAll design (cell :: cells) (fate :: fates) (told ++ log)

/-- **Cells that all come to their end** are told of in turn. -/
theorem meetAll_of_outcome {fates : List CellFate}
    (ended : (Plan.all (cells.map (planCell db design))).outcome = .ok fates) :
    MeetAll design cells fates (Plan.all (cells.map (planCell db design))).log := by
  induction cells generalizing fates with
  | nil =>
    cases ended
    exact .nil
  | cons cell cells ih =>
    rw [List.map_cons, all_cons] at ended ⊢
    cases first : (planCell db design cell).outcome with
    | error failure =>
      rw [bind_of_error first] at ended
      cases ended
    | ok fate =>
      rw [bind_of_ok first] at ended ⊢
      obtain ⟨others, rest, rfl⟩ := map_eq_ok_iff.mp ended
      exact .cons (meets_of_planCell first) (ih rest)

/-- **Cells of which one fails** are told of in turn up to the first that does. -/
theorem exists_meetAll_of_error {failure : Failure}
    (ended : (Plan.all (cells.map (planCell db design))).outcome = .error failure) :
    ∃ before cell after fates, cells = before ++ cell :: after ∧
      (∀ other ∈ before, ∃ fate, (planCell db design other).outcome = .ok fate) ∧
      (planCell db design cell).outcome = .error failure ∧
      MeetAll design before fates (Plan.all (cells.map (planCell db design))).log := by
  induction cells with
  | nil => cases ended
  | cons cell cells ih =>
    rw [List.map_cons, all_cons] at ended ⊢
    cases first : (planCell db design cell).outcome with
    | error early =>
      rw [bind_of_error first] at ended ⊢
      cases ended
      rw [log_planCell_of_error first]
      exact ⟨[], cell, cells, [], rfl, nofun, first, .nil⟩
    -- The cell has ended, so the one that fails is among the others.
    | ok fate =>
      rw [bind_of_ok first] at ended ⊢
      obtain ⟨before, culprit, after, fates, rfl, made, failed, met⟩ :=
        ih (map_eq_error_iff.mp ended)
      exact ⟨cell :: before, culprit, after, fate :: fates, rfl,
        List.forall_mem_cons.mpr ⟨⟨fate, first⟩, made⟩, failed,
        .cons (meets_of_planCell first) met⟩

/-- A log of one warning for each cell that is not placed, in order, with the name of the cell. -/
def WarnsOf (design : Design) (cells : List Cell) (log : Log) : Prop :=
  ∃ names : List String, log = names.map unplacedWarning ∧
    (cells.filter (·.bel.isNone)).map (fun cell => design.name cell.name) = names.map .ok

/-- Whether a cell is placed and of a kind. -/
def Cell.isPlacedAs (design : Design) (kind : String) (cell : Cell) : Bool :=
  cell.bel.isSome && decide (design.name cell.kind = .ok kind)

theorem MeetAll.warnsOf {fates : List CellFate} {log : Log} (met : MeetAll design cells fates log) :
    WarnsOf design cells log := by
  induction met with
  | nil => exact ⟨[], rfl, rfl⟩
  | cons first rest ih =>
    obtain ⟨names, rfl, listed⟩ := ih
    cases first with
    | @unplaced name loose named =>
      refine ⟨name :: names, rfl, ?_⟩
      rw [List.filter_cons_of_pos (by rw [loose]; rfl), List.map_cons, List.map_cons, named, listed]
    | encoded placed named known =>
      refine ⟨names, rfl, ?_⟩
      rw [List.filter_cons_of_neg (by rw [placed]; nofun), listed]
    | unhandled placed named unknown =>
      refine ⟨names, rfl, ?_⟩
      rw [List.filter_cons_of_neg (by rw [placed]; nofun), listed]

/-- **The numbers of cells by their fate add up.** -/
theorem MeetAll.tally {fates : List CellFate} {log : Log} (met : MeetAll design cells fates log) :
    (CellTally.ofFates fates).encoded + (CellTally.ofFates fates).unplaced +
        (CellTally.ofFates fates).unhandled = cells.length ∧
      (CellTally.ofFates fates).encoded + (CellTally.ofFates fates).unhandled =
        cells.countP (·.bel.isSome) := by
  induction met with
  | nil => exact ⟨rfl, rfl⟩
  | cons first rest ih =>
    simp only [CellTally.ofFates] at ih
    simp only [CellTally.ofFates, List.countP_cons, List.length_cons]
    cases first with
    | unplaced loose named =>
      simp [loose]
      omega
    | encoded placed named known =>
      simp [placed]
      omega
    | unhandled placed named unknown =>
      simp [placed]
      omega

theorem Cell.isPlacedAs_iff {kind : String} : cell.isPlacedAs design kind = true ↔
    (∃ bel, cell.bel = some bel) ∧ design.name cell.kind = .ok kind := by
  rw [isPlacedAs, Bool.and_eq_true, Option.isSome_iff_exists, decide_eq_true_iff]

/-- The cells that are noted of are placed and of a kind without an encoder. -/
theorem Meets.eq_unhandled_iff {fate : CellFate} {told : Log} (met : Meets design cell fate told)
    (kind : String) : fate = .unhandled kind ↔
      Encoder.forKind? kind = none ∧ cell.isPlacedAs design kind = true := by
  rw [Cell.isPlacedAs_iff]
  cases met with
  | unplaced loose named =>
    rw [loose]
    exact iff_of_false nofun fun ⟨_, ⟨_, placed⟩, _⟩ => nomatch placed
  | @encoded bel other encoder placed named known =>
    refine iff_of_false nofun fun ⟨unknown, _, same⟩ => ?_
    cases named.symm.trans same
    cases known.symm.trans unknown
  | @unhandled bel other placed named unknown =>
    rw [CellFate.unhandled.injEq]
    refine ⟨?_, fun ⟨_, _, same⟩ => ?_⟩
    · rintro rfl
      exact ⟨unknown, ⟨bel, placed⟩, named⟩
    · cases named.symm.trans same
      rfl

/-- **A kind without an encoder is met once for each placed cell of it**, any other kind never. -/
theorem MeetAll.count_unhandled {fates : List CellFate} {log : Log}
    (met : MeetAll design cells fates log) (kind : String) :
    fates.count (.unhandled kind) =
      if Encoder.forKind? kind = none then cells.countP (Cell.isPlacedAs design kind) else 0 := by
  induction met with
  | nil => rw [List.count_nil, List.countP_nil, ite_self]
  | cons first rest ih =>
    rw [List.count_cons, ih, List.countP_cons]
    by_cases unknown : Encoder.forKind? kind = none
    · simp [unknown, first.eq_unhandled_iff]
    · simp [unknown, first.eq_unhandled_iff]

/-! ### Kinds without an encoder -/

theorem unhandledKinds_append (fates : List CellFate) (fate : CellFate) :
    unhandledKinds (fates ++ [fate]) = match fate with
      | .unhandled kind => (unhandledKinds fates).alter kind fun count => some (count.getD 0 + 1)
      | _ => unhandledKinds fates := by
  rw [unhandledKinds, List.foldl_append]
  rfl

/-- **A kind is in the table with the number of the fates that name it**, if there are any. -/
theorem getElem?_unhandledKinds (fates : List CellFate) (kind : String) :
    (unhandledKinds fates)[kind]? =
      if fates.count (.unhandled kind) = 0 then none else some (fates.count (.unhandled kind)) := by
  induction fates using List.reverseRecOn with
  | nil => rfl
  | append_singleton fates fate ih =>
    rw [unhandledKinds_append, List.count_append]
    cases fate with
    | encoded => simpa using ih
    | unplaced => simpa using ih
    | unhandled other =>
      rw [Std.ExtTreeMap.getElem?_alter]
      by_cases same : other = kind
      · subst same
        have before : (unhandledKinds fates)[other]?.getD 0 = fates.count (.unhandled other) := by
          rw [ih]
          split <;> simp_all
        rw [if_pos Std.ReflCmp.compare_self, before, List.count_singleton_self, if_neg (by omega)]
      · have apart : CellFate.unhandled other ≠ .unhandled kind := by simpa using same
        rw [if_neg (by simpa using same), ih, List.count_singleton, beq_eq_false_iff_ne.mpr apart]
        rfl

/-- A kind is listed with the number of the fates that name it. -/
theorem mem_unhandledKinds_iff {fates : List CellFate} {kind : String} {count : Nat} :
    (kind, count) ∈ (unhandledKinds fates).toList ↔
      0 < count ∧ count = fates.count (.unhandled kind) := by
  rw [Std.ExtTreeMap.mem_toList_iff_getElem?_eq_some, getElem?_unhandledKinds]
  split <;> simp <;> omega

/-- **The counts of all kinds together** are the number of the fates without an encoder. -/
theorem foldr_unhandledKinds (fates : List CellFate) :
    (unhandledKinds fates).toList.foldr (fun entry total => entry.2 + total) 0 =
      (CellTally.ofFates fates).unhandled := by
  -- Each kind is listed once, so the kinds are the different fates without an encoder.
  have perm : ((unhandledKinds fates).toList.map fun entry => CellFate.unhandled entry.1).Perm
      (fates.dedup.filter fun fate => fate matches .unhandled _) := by
    refine (List.perm_ext_iff_of_nodup ?_ ((List.nodup_dedup fates).filter _)).mpr fun fate => ?_
    · rw [List.Nodup, List.pairwise_map]
      refine (ascending_toList (unhandledKinds fates)).imp fun less same => ?_
      rw [CellFate.unhandled.inj same] at less
      exact String.lt_irrefl _ less
    · rw [List.mem_map, List.mem_filter, List.mem_dedup]
      constructor
      · rintro ⟨⟨kind, count⟩, member, rfl⟩
        obtain ⟨positive, rfl⟩ := mem_unhandledKinds_iff.mp member
        exact ⟨List.count_pos_iff.mp positive, rfl⟩
      · rintro ⟨member, unhandled⟩
        cases fate with
        | encoded => cases unhandled
        | unplaced => cases unhandled
        | unhandled kind =>
          exact ⟨(kind, _), mem_unhandledKinds_iff.mpr ⟨List.count_pos_iff.mpr member, rfl⟩, rfl⟩
  have counts : (unhandledKinds fates).toList.map (·.2) =
      ((unhandledKinds fates).toList.map fun entry => CellFate.unhandled entry.1).map
        (fates.count ·) := by
    rw [List.map_map]
    exact List.map_congr_left fun entry member => (mem_unhandledKinds_iff.mp member).2
  calc (unhandledKinds fates).toList.foldr (fun entry total => entry.2 + total) 0
    _ = ((unhandledKinds fates).toList.map (·.2)).sum := by
      rw [List.sum_eq_foldr, List.foldr_map]
    _ = ((fates.dedup.filter fun fate => fate matches .unhandled _).map (fates.count ·)).sum := by
      rw [counts, (perm.map _).sum_eq]
    _ = _ := List.sum_map_count_dedup_filter_eq_countP _ _

/-! ### The stage of the cells -/

/-- The kinds of placed cells without an encoder, in ascending order and with the numbers of these
cells. -/
structure CountsKinds (design : Design) (cells : List Cell) (counts : List (String × Nat)) :
    Prop where
  ascending : counts.Pairwise fun first second => first.1 < second.1
  mem_iff : ∀ kind count, (kind, count) ∈ counts ↔
    Encoder.forKind? kind = none ∧ 0 < count ∧ count = cells.countP (Cell.isPlacedAs design kind)

theorem MeetAll.countsKinds {fates : List CellFate} {log : Log}
    (met : MeetAll design cells fates log) :
    CountsKinds design cells (unhandledKinds fates).toList := by
  refine ⟨ascending_toList (unhandledKinds fates), fun kind count => ?_⟩
  rw [mem_unhandledKinds_iff, met.count_unhandled]
  by_cases unknown : Encoder.forKind? kind = none
  · rw [if_pos unknown, and_iff_right unknown]
  · rw [if_neg unknown]
    refine iff_of_false ?_ fun ⟨same, _⟩ => unknown same
    rintro ⟨positive, rfl⟩
    exact Nat.lt_irrefl 0 positive

/-- Every cell of a design is counted once, and what is told of the cells: the warnings of those
that are not placed, and then the notes on the kinds without an encoder. -/
structure Accounts (design : Design) (tally : CellTally) (log : Log) : Prop where
  cells : tally.encoded + tally.unplaced + tally.unhandled = design.cells.size
  placed : tally.encoded + tally.unhandled = design.placedCount
  told : ∃ warnings counts, WarnsOf design design.cells.toList warnings ∧
    CountsKinds design design.cells.toList counts ∧
    counts.foldr (fun entry total => entry.2 + total) 0 = tally.unhandled ∧
    log = warnings ++ counts.map fun entry => unhandledNote entry.1 entry.2

/-- The stage stops at a cell that fails, and has told of the cells before it. -/
def StopsAt (db : Database) (design : Design) (failure : Failure) (log : Log) : Prop :=
  ∃ before cell after, design.cells.toList = before ++ cell :: after ∧
    (∀ other ∈ before, ∃ fate, (planCell db design other).outcome = .ok fate) ∧
    (planCell db design cell).outcome = .error failure ∧ WarnsOf design before log

/-- The stage of the cells, from the plan of all cells. -/
theorem planCells_eq (db : Database) (design : Design) : planCells db design =
    Plan.all (design.cells.toList.map (planCell db design)) >>= fun fates =>
      ⟨[], (unhandledKinds fates).toList.map fun entry => unhandledNote entry.1 entry.2,
        .ok (.ofFates fates)⟩ := by
  refine congrArg (_ >>= ·) (funext fun fates => ?_)
  rw [all_map_report, bind_of_ok rfl]
  exact congrArg (Plan.mk [] · _) (List.append_nil _)

/-- **A stage that comes to its end accounts for every cell.** -/
theorem accounts_planCells {tally : CellTally} (ended : (planCells db design).outcome = .ok tally) :
    Accounts design tally (planCells db design).log := by
  rw [planCells_eq] at ended ⊢
  cases all : (Plan.all (design.cells.toList.map (planCell db design))).outcome with
  | error failure =>
    rw [bind_of_error all] at ended
    cases ended
  | ok fates =>
    rw [bind_of_ok all] at ended ⊢
    cases ended
    have met := meetAll_of_outcome all
    obtain ⟨whole, placed⟩ := met.tally
    refine ⟨whole, ?_, ⟨_, _, met.warnsOf, met.countsKinds, foldr_unhandledKinds fates, rfl⟩⟩
    rw [placed, Design.placedCount, ← Array.countP_toList]

/-- **A stage that fails has told of the cells before the one that does.** -/
theorem stopsAt_planCells {failure : Failure}
    (failed : (planCells db design).outcome = .error failure) :
    StopsAt db design failure (planCells db design).log := by
  rw [planCells_eq] at failed ⊢
  cases all : (Plan.all (design.cells.toList.map (planCell db design))).outcome with
  | ok fates =>
    rw [bind_of_ok all] at failed
    cases failed
  | error early =>
    rw [bind_of_error all] at failed ⊢
    cases failed
    obtain ⟨before, cell, after, fates, split, made, stopped, met⟩ := exists_meetAll_of_error all
    exact ⟨before, cell, after, split, made, stopped, met.warnsOf⟩

/-! ### Generation -/

theorem log_planArcs (db : Database) (design : Design) : (planArcs db design).log = [] :=
  log_eq_nil_of_tellsOnly (tellsOnly_map (tellsOnly_all_map tellsOnly_planArc) _)

/-- The stages after arcs that come to their end are the stage of the cells. -/
theorem planDesign_of_planArcs {arcs : Nat} (ended : (planArcs db design).outcome = .ok arcs) :
    (planDesign db design).log = (planCells db design).log ∧
      (planDesign db design).outcome = (planCells db design).outcome.map (arcs, ·) := by
  unfold planDesign
  rw [bind_of_ok ended, log_planArcs]
  cases cells : (planCells db design).outcome with
  | error failure =>
    rw [bind_of_error cells]
    exact ⟨rfl, rfl⟩
  | ok tally =>
    rw [bind_of_ok cells]
    exact ⟨List.append_nil _, rfl⟩

/-- A document is generated when the variant is supported and both stages come to their end. -/
theorem exists_generate_eq_ok {arcs : Nat} {tally : CellTally}
    (supported : db.variant.isSupported = true) (arcsEnd : (planArcs db design).outcome = .ok arcs)
    (cellsEnd : (planCells db design).outcome = .ok tally) :
    ∃ document, (generate db design).2 = .ok document := by
  unfold generate
  cases seeded : ({} : Document).seed? db.variant with
  | none =>
    rw [seed?_eq_none_iff.mp seeded] at supported
    cases supported
  | some base =>
    dsimp only
    rw [(planDesign_of_planArcs arcsEnd).2, cellsEnd]
    exact ⟨_, rfl⟩

/-- **A document comes with what the stage of the cells tells**, and then the closing note. -/
theorem log_generate_of_eq_ok {document : Document}
    (made : (generate db design).2 = .ok document) :
    ∃ arcs tally, (planArcs db design).outcome = .ok arcs ∧
      (planCells db design).outcome = .ok tally ∧
      (generate db design).1 =
        (planCells db design).log ++ [summaryNote document design arcs tally] := by
  unfold generate at made ⊢
  cases seeded : ({} : Document).seed? db.variant with
  | none =>
    rw [seeded] at made
    cases made
  | some base =>
    rw [seeded] at made
    dsimp only at made ⊢
    cases arcsEnd : (planArcs db design).outcome with
    | error failure =>
      have failed : (planDesign db design).outcome = .error failure := by
        unfold planDesign
        rw [bind_of_error arcsEnd]
      rw [failed] at made
      cases made
    | ok arcs =>
      obtain ⟨told, ended⟩ := planDesign_of_planArcs arcsEnd
      cases cellsEnd : (planCells db design).outcome with
      | error failure =>
        rw [ended, cellsEnd] at made
        cases made
      | ok tally =>
        rw [cellsEnd] at ended
        rw [ended] at made ⊢
        cases made
        exact ⟨arcs, tally, rfl, rfl, congrArg (· ++ _) told⟩

/-- **Nothing is skipped silently.** The stage of the cells counts every cell and tells of those
that give nothing; if it fails it has told of the cells before. Generation adds the closing note,
and none of this is an error. -/
theorem planCells_accounts_and_generate_adds (db : Database) (design : Design) :
    (∀ tally, (planCells db design).outcome = .ok tally →
        Accounts design tally (planCells db design).log) ∧
      (∀ failure, (planCells db design).outcome = .error failure →
        StopsAt db design failure (planCells db design).log) ∧
      (∀ document, (generate db design).2 = .ok document → ∃ arcs tally,
        (planArcs db design).outcome = .ok arcs ∧ (planCells db design).outcome = .ok tally ∧
          (generate db design).1 =
            (planCells db design).log ++ [summaryNote document design arcs tally] ∧
          (generate db design).1.hasErrors = false) ∧
      ∀ arcs tally, db.variant.isSupported = true → (planArcs db design).outcome = .ok arcs →
        (planCells db design).outcome = .ok tally →
        ∃ document, (generate db design).2 = .ok document := by
  refine ⟨fun _ => accounts_planCells, fun _ => stopsAt_planCells, fun document made => ?_,
    fun _ _ => exists_generate_eq_ok⟩
  obtain ⟨arcs, tally, arcsEnd, cellsEnd, told⟩ := log_generate_of_eq_ok made
  refine ⟨arcs, tally, arcsEnd, cellsEnd, told, ?_⟩
  rw [← Bool.not_eq_true, Log.hasErrors_iff, not_not]
  exact ((errors_generate db design).1 document made).2

/-- A listing of a cell that is not placed, and one that is. -/
def looseAndPlaced (kind : String) (parameters : List (String × Json)) : Json :=
  let bel := Json.object [("row", .integer 1), ("col", .integer 0), ("name", .text "SLICEA")]
  .object [("cells", .array [.object [("name", .text "loose"), ("type", .text "FACADE_SLICE")],
    .object [("name", .text "fixed"), ("type", .text kind), ("bel", bel),
      ("params", .object parameters)]])]

/-- A phase-locked loop has no encoder. -/
theorem accounts_and_adds_looseAndPlaced :
    ∃ db loop malformed tally failure, Database.load twoRows.render = .ok db ∧
      Design.load db (looseAndPlaced "EHXPLLJ" []).render = .ok loop ∧
      Accounts loop tally (planCells db loop).log ∧ tally = ⟨0, 1, 1⟩ ∧
      (∃ document arcs, (generate db loop).1 =
        [unplacedWarning "loose", unhandledNote "EHXPLLJ" 1,
          summaryNote document loop arcs tally]) ∧
      Design.load db (looseAndPlaced "FACADE_SLICE" [("LUT0_INITVAL", .text "0b102")]).render =
        .ok malformed ∧
      StopsAt db malformed failure (planCells db malformed).log ∧
      (planCells db malformed).log = [unplacedWarning "loose"] := by
  have ends : ((loadRendered twoRows (looseAndPlaced "EHXPLLJ" [])).map fun (db, design) =>
      ((planCells db design).outcome.toOption, (planCells db design).log,
        (planArcs db design).outcome.toOption, db.variant.isSupported)) =
      some (some ⟨0, 1, 1⟩, [unplacedWarning "loose", unhandledNote "EHXPLLJ" 1], some 0,
        true) := by
    decide +kernel
  have stops : ((loadRendered twoRows (looseAndPlaced "FACADE_SLICE"
      [("LUT0_INITVAL", .text "0b102")])).map fun (db, design) =>
      ((planCells db design).outcome.toOption, (planCells db design).log)) =
      some (none, [unplacedWarning "loose"]) := by
    decide +kernel
  obtain ⟨⟨db, loop⟩, found, same⟩ := Option.map_eq_some_iff.mp ends
  obtain ⟨⟨other, malformed⟩, otherFound, otherSame⟩ := Option.map_eq_some_iff.mp stops
  obtain ⟨described, listed⟩ := load_of_loadRendered found
  obtain ⟨again, otherListed⟩ := load_of_loadRendered otherFound
  cases described.symm.trans again
  simp only [Prod.mk.injEq] at same otherSame
  obtain ⟨cellsEnd, told, arcsEnd, supported⟩ := same
  obtain ⟨notEnded, otherTold⟩ := otherSame
  have whole := planCells_accounts_and_generate_adds db loop
  have stopped := planCells_accounts_and_generate_adds db malformed
  have cellsEnd := eq_ok_of_toOption cellsEnd
  obtain ⟨document, made⟩ := whole.2.2.2 0 ⟨0, 1, 1⟩ supported (eq_ok_of_toOption arcsEnd) cellsEnd
  obtain ⟨arcs, tally, _, sameCells, adds, _⟩ := whole.2.2.1 document made
  cases cellsEnd.symm.trans sameCells
  rw [told] at adds
  cases failed : (planCells db malformed).outcome with
  | ok tally =>
    rw [failed] at notEnded
    cases notEnded
  | error failure =>
    exact ⟨db, loop, malformed, ⟨0, 1, 1⟩, failure, described, listed, whole.1 _ cellsEnd, rfl,
      ⟨document, arcs, adds⟩, otherListed, stopped.2.1 failure failed, otherTold⟩

end FabricConfig
