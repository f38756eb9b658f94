import FabricConfig.Proofs.Generation.Exactness
import FabricConfig.Proofs.Generation.Footprint
/-!
# The stages of generation

A configuration comes about in three stages: the base configuration, the arcs and the cells. Each
stage has slots of its own, so the order of the stages and their repetition do not matter.

* `Stage.run`, `generate_eq_run`: the stages, and that generation is these.
* `Stage.ofSlot_of_mem_edits`: what a stage sets is in its own slots.
* `Stage.HasRun`, `HasRun.write`, `HasRun.exists_runAll`: what a document holds after some stages.
* `Stage.runAll_perm_and_idempotent`: stages commute, and one that has run changes nothing.
-/

namespace FabricConfig

variable {db : Database} {design : Design}

/-- A stage of generation. -/
inductive Stage where
  | base
  | arcs
  | cells
deriving DecidableEq

namespace Stage

variable {stage : Stage} {document after : Document}

/-- Runs one stage on a document. -/
def run (db : Database) (design : Design) (stage : Stage) (document : Document) :
    Except Failure Document :=
  match stage with
  | base =>
    match document.seed? db.variant with
    | some seeded => .ok seeded
    | none => .error (.error (.unsupported db.variant))
  | arcs => (planArcs db design).run document
  | cells => (planCells db design).run document

/-- Runs stages in turn, up to the first failure. -/
def runAll (db : Database) (design : Design) (stages : List Stage) (document : Document) :
    Except Failure Document :=
  stages.foldlM (fun document stage => stage.run db design document) document

end Stage

theorem run_planDesign (db : Database) (design : Design) (document : Document) :
    (planDesign db design).run document =
      (planArcs db design).run document >>= (planCells db design).run := by
  have last (arcs : Nat) : (planCells db design >>= fun tally => Pure.pure (arcs, tally)).effect =
      (planCells db design).effect := Plan.effect_bind_of_silent fun _ => Plan.effect_pure _
  unfold planDesign
  rw [Plan.run_bind last, funext (Plan.run_effect (planCells db design))]

/-- **Generation is the three stages**, with the comment on the part after the first. -/
theorem generate_eq_run (db : Database) (design : Design) :
    (generate db design).2 = (Stage.base.run db design {}).bind fun seeded =>
      Stage.runAll db design [.arcs, .cells] (seeded.comment ("Part: " ++ db.partName)) := by
  unfold generate
  cases seeded : ({} : Document).seed? db.variant with
  | none =>
    rw [Stage.run, seeded]
    rfl
  | some document =>
    have planned := run_planDesign db design (document.comment ("Part: " ++ db.partName))
    simp only [Stage.run, seeded, Except.bind, Stage.runAll, List.foldlM_cons, List.foldlM_nil,
      bind_pure]
    rw [← planned, Plan.run]
    cases (planDesign db design).outcome <;> rfl

namespace Stage

variable {stage : Stage} {before document after : Document} {ran : List Stage}

/-! ### What a stage does -/

/-- The edits of a stage. -/
def edits (db : Database) (design : Design) : Stage → List Edit
  | base => db.variant.baseEdits?.getD []
  | arcs => (planArcs db design).edits
  | cells => (planCells db design).edits

/-- Whether a stage comes to its end, on whatever document. -/
def Succeeds (db : Database) (design : Design) : Stage → Prop
  | base => db.variant.isSupported = true
  | arcs => ∃ count, (planArcs db design).outcome = .ok count
  | cells => ∃ tally, (planCells db design).outcome = .ok tally

/-- What a stage makes of a document when it comes to its end. -/
def write (db : Database) (design : Design) (stage : Stage) (document : Document) : Document :=
  (match stage with
    | base => { document with deviceName := db.variant.name }
    | _ => document : Document).applyAll (stage.edits db design)

/-- **A stage comes to its end or not whatever the document is**, and its edits are the same. -/
theorem run_eq_ok_iff : stage.run db design document = .ok after ↔
    stage.Succeeds db design ∧ stage.write db design document = after := by
  cases stage with
  | base =>
    unfold run Succeeds write Stage.edits Document.seed? Variant.isSupported
    cases db.variant.baseEdits? <;> simp
  | arcs => exact Plan.run_eq_ok_iff
  | cells => exact Plan.run_eq_ok_iff

theorem exists_run_iff : (∃ after, stage.run db design document = .ok after) ↔
    stage.Succeeds db design := by
  simp only [run_eq_ok_iff, exists_and_left, exists_eq', and_true]

theorem deviceName_write : (stage.write db design document).deviceName =
    if stage = base then db.variant.name else document.deviceName := by
  cases stage <;> exact Document.deviceName_applyAll _ _

theorem metadata_write : (stage.write db design document).metadata = document.metadata := by
  cases stage <;> exact Document.metadata_applyAll _ _

theorem mem_tiles_write {tile : String} : tile ∈ (stage.write db design document).tiles ↔
    (∃ edit ∈ stage.edits db design, edit.tile = tile) ∨ tile ∈ document.tiles := by
  cases stage <;> exact Document.mem_tiles_applyAll _ _ _

theorem feature?_write {tile : String} {slot : Slot} :
    ((stage.write db design document).settings tile).feature? slot =
      ((stage.edits db design).filterMap (·.feature? tile slot)).getLast?.or
        ((document.settings tile).feature? slot) := by
  cases stage <;> exact Document.feature?_applyAll _ _ _ _

/-! ### Whose slot it is -/

/-- The stage that a slot belongs to. -/
def ofSlot : Slot → Stage
  | .raw _ => base
  | .arc _ => arcs
  | .word _ => cells
  | .enum _ => cells

/-- **A stage sets what is in its own slots, and nothing else.** -/
theorem ofSlot_of_mem_edits {tile : String} {feature : Feature}
    (member : .set tile feature ∈ stage.edits db design) : ofSlot feature.slot = stage := by
  cases stage with
  | base =>
    unfold Stage.edits at member
    cases registered : db.variant.baseEdits? with
    | none =>
      rw [registered] at member
      cases member
    | some base =>
      rw [registered] at member
      obtain ⟨_, bit, same⟩ := raw_of_mem_baseEdits registered member
      cases same
      rfl
  | arcs =>
    cases makesOnly_planArcs db design _ member with
    | arc held => rfl
  | cells =>
    cases makesOnly_planCells db design _ member with
    | word held => rfl
    | enum held => rfl

theorem filterMap_edits_of_ne {tile : String} {slot : Slot} (foreign : stage ≠ ofSlot slot) :
    (stage.edits db design).filterMap (·.feature? tile slot) = [] := by
  rw [filterMap_feature?_eq_nil_iff]
  rintro feature member rfl
  exact foreign (ofSlot_of_mem_edits member).symm

/-! ### After some stages -/

/-- What a document holds after some stages, in terms of what it held before. Neither the order of
the stages nor how often each ran is part of it. -/
structure HasRun (db : Database) (design : Design) (ran : List Stage) (before after : Document) :
    Prop where
  deviceName : after.deviceName = if base ∈ ran then db.variant.name else before.deviceName
  metadata : after.metadata = before.metadata
  mem_tiles_iff : ∀ tile, tile ∈ after.tiles ↔
    (∃ stage ∈ ran, ∃ edit ∈ stage.edits db design, edit.tile = tile) ∨ tile ∈ before.tiles
  feature?_eq : ∀ tile slot, (after.settings tile).feature? slot =
    (if ofSlot slot ∈ ran then
      (((ofSlot slot).edits db design).filterMap (·.feature? tile slot)).getLast?
    else none).or ((before.settings tile).feature? slot)

theorem HasRun.unique {others : List Stage} {other : Document}
    (first : HasRun db design ran before after) (second : HasRun db design others before other)
    (same : ∀ stage, stage ∈ ran ↔ stage ∈ others) : after = other := by
  refine Document.ext_feature? ?_ (first.metadata.trans second.metadata.symm) (fun tile => ?_)
    fun tile slot => ?_
  · rw [first.deviceName, second.deviceName]
    simp only [same]
  · rw [first.mem_tiles_iff, second.mem_tiles_iff]
    simp only [same]
  · rw [first.feature?_eq, second.feature?_eq]
    simp only [same]

theorem hasRun_nil (document : Document) : HasRun db design [] document document := by
  constructor <;> simp

/-- **One more stage**: what it sets is its own, so what the others set stays. -/
theorem HasRun.write (held : HasRun db design ran before after) (stage : Stage) :
    HasRun db design (ran ++ [stage]) before (stage.write db design after) where
  deviceName := by
    rw [deviceName_write, held.deviceName]
    by_cases named : stage = base
    · simp [named]
    · simp [named, Ne.symm named]
  metadata := metadata_write.trans held.metadata
  mem_tiles_iff tile := by
    rw [mem_tiles_write, held.mem_tiles_iff, ← or_assoc, or_comm (a := ∃ edit ∈ _, _)]
    simp only [List.mem_append, List.mem_singleton, or_and_right, exists_or, exists_eq_left]
  feature?_eq tile slot := by
    rw [feature?_write, held.feature?_eq]
    by_cases own : stage = ofSlot slot
    · -- If the stage has run before, it sets here what it set then.
      subst own
      have inside : ofSlot slot ∈ ran ++ [ofSlot slot] :=
        List.mem_append_right _ List.mem_cons_self
      rw [if_pos inside]
      cases (((ofSlot slot).edits db design).filterMap (·.feature? tile slot)).getLast? <;> simp
    · rw [filterMap_edits_of_ne own, List.getLast?_nil, Option.none_or]
      simp [Ne.symm own]

/-- **Stages that all come to their end** leave what they set, whatever ran before them. -/
theorem HasRun.exists_runAll {stages : List Stage} (held : HasRun db design ran before document)
    (succeed : ∀ stage ∈ stages, stage.Succeeds db design) :
    ∃ after, runAll db design stages document = .ok after ∧
      HasRun db design (ran ++ stages) before after := by
  induction stages generalizing ran document with
  | nil => exact ⟨document, rfl, by rwa [List.append_nil]⟩
  | cons stage stages ih =>
    have first := held.write stage
    obtain ⟨after, rest, all⟩ := ih first fun other member =>
      succeed other (List.mem_cons_of_mem _ member)
    refine ⟨after, ?_, by rwa [List.append_assoc] at all⟩
    rw [runAll, List.foldlM_cons, run_eq_ok_iff.mpr ⟨succeed stage List.mem_cons_self, rfl⟩]
    exact rest

/-- Lists of the same stages, which all come to their end, leave the same document. -/
theorem runAll_eq_of_mem_iff {stages others : List Stage}
    (succeed : ∀ stage ∈ stages, stage.Succeeds db design)
    (same : ∀ stage, stage ∈ stages ↔ stage ∈ others) (document : Document) :
    ∃ after, runAll db design stages document = .ok after ∧
      runAll db design others document = .ok after := by
  obtain ⟨after, ran, holds⟩ := (hasRun_nil document).exists_runAll succeed
  obtain ⟨other, alsoRan, alsoHolds⟩ := (hasRun_nil document).exists_runAll fun stage member =>
    succeed stage ((same stage).mpr member)
  rw [holds.unique alsoHolds (by simpa using same)] at ran
  exact ⟨other, ran, alsoRan⟩

/-- **The stages commute and are idempotent.** Whether a stage comes to its end does not depend on
the document. When all three do, they leave the same document in whatever order they run, and a
stage that has run before changes nothing, whatever ran in between. -/
theorem runAll_perm_and_idempotent (db : Database) (design : Design) :
    (∀ stage : Stage, ∀ document other : Document,
      (∃ after, stage.run db design document = .ok after) ↔
        ∃ after, stage.run db design other = .ok after) ∧
    ((∀ stage : Stage, ∃ given after, stage.run db design given = .ok after) →
      ∀ document : Document,
        (∀ order : List Stage, order.Perm [base, arcs, cells] →
          ∃ after, runAll db design order document = .ok after ∧
            runAll db design [base, arcs, cells] document = .ok after) ∧
        ∀ ran : List Stage, ∀ stage ∈ ran, ∃ after,
          runAll db design ran document = .ok after ∧
            stage.run db design after = .ok after) := by
  refine ⟨fun stage document other => exists_run_iff.trans exists_run_iff.symm, ?_⟩
  intro each document
  have succeeds : ∀ stage : Stage, stage.Succeeds db design := by
    intro stage
    obtain ⟨given, ran⟩ := each stage
    exact exists_run_iff.mp ran
  refine ⟨fun order permuted => ?_, fun ran stage member => ?_⟩
  · exact runAll_eq_of_mem_iff (fun stage _ => succeeds stage) (fun _ => permuted.mem_iff) document
  · have same : ∀ other, other ∈ ran ↔ other ∈ ran ++ [stage] := by
      intro other
      rw [List.mem_append, List.mem_singleton]
      exact ⟨.inl, fun either => either.elim id fun same => same ▸ member⟩
    obtain ⟨after, once, again⟩ :=
      runAll_eq_of_mem_iff (fun stage _ => succeeds stage) same document
    simp only [runAll, List.foldlM_append, List.foldlM_cons, List.foldlM_nil, bind_pure] at again
    rw [← runAll, once] at again
    exact ⟨after, once, again⟩

/-- A document with a comment and with a setting that the cells set otherwise. -/
def startedDocument : Document :=
  ({ metadata := ["kept"] } : Document).apply (.set "R2C1:PLC" (.enum "SLICEA.MODE" "CCU2"))

theorem runAll_perm_and_idempotent_routedSlice :
    ∃ db design after, Database.load twoRows.render = .ok db ∧
      Design.load db routedSlice.render = .ok design ∧
      runAll db design [cells, base, arcs] startedDocument = .ok after ∧
      runAll db design [base, arcs, cells] startedDocument = .ok after ∧
      ∃ again, runAll db design [cells, arcs, base] startedDocument = .ok again ∧
        cells.run db design again = .ok again := by
  have ready : ((loadRendered twoRows routedSlice).map fun (db, design) =>
      [base, arcs, cells].all fun stage => (stage.run db design {}).toOption.isSome) =
        some true := by decide +kernel
  obtain ⟨⟨db, design⟩, found, each⟩ := Option.map_eq_some_iff.mp ready
  obtain ⟨described, listed⟩ := load_of_loadRendered found
  have succeed : ∀ stage : Stage, ∃ given after, stage.run db design given = .ok after := by
    intro stage
    have listed : stage ∈ [base, arcs, cells] := by cases stage <;> decide
    obtain ⟨after, ran⟩ := Option.isSome_iff_exists.mp (List.all_eq_true.mp each stage listed)
    exact ⟨{}, after, eq_ok_of_toOption ran⟩
  have both := (runAll_perm_and_idempotent db design).2 succeed startedDocument
  obtain ⟨after, ran, inOrder⟩ := both.1 [cells, base, arcs] (by decide)
  exact ⟨db, design, after, described, listed, ran, inOrder,
    both.2 [cells, arcs, base] cells (by decide)⟩

end Stage

end FabricConfig
