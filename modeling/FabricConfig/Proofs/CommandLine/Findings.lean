import FabricConfig.CommandLine.Run
import FabricConfig.Proofs.Generation.Cells
import FabricConfig.Proofs.Outcome
/-!
# What generation tells

The stages after the base configuration tell of no errors, only of things to know, and they do not
fail for the variant. So a failure to generate is told once: by generation itself if the variant has
no base configuration, and by the run in all other cases.

* `Log.errors`: the errors in a log.
* `Plan.IsMild`, `isMild_planDesign`: plans that tell of no error.
* `errors_generate`, `errors_failureLog`: the errors that generation and a run tell of.
-/

namespace FabricConfig

/-! ### Errors in a log -/

namespace Log

variable {log : Log} {diagnostic : Diagnostic}

/-- The diagnostics of errors. -/
def errors (log : Log) : Log := log.filter (·.severity = .error)

theorem errors_append (first second : Log) :
    errors (first ++ second) = first.errors ++ second.errors :=
  List.filter_append ..

theorem errors_eq_nil_iff : log.errors = [] ↔ ∀ diagnostic ∈ log, diagnostic.severity ≠ .error := by
  simp [errors, List.filter_eq_nil_iff]

theorem hasErrors_iff : log.hasErrors = true ↔ log.errors ≠ [] := by
  rw [hasErrors, count, errors, List.countP_eq_length_filter, decide_eq_true_eq,
    List.length_pos_iff]

/-- **An error is told whatever is asked for.** -/
theorem mem_atLeast_of_mem_errors (member : diagnostic ∈ log.errors) (least : Severity) :
    diagnostic ∈ log.atLeast least := by
  obtain ⟨inside, severe⟩ := List.mem_filter.mp member
  refine List.mem_filter.mpr ⟨inside, ?_⟩
  rw [of_decide_eq_true severe]
  cases least <;> rfl

end Log

/-! ### Mild plans -/

namespace Plan

variable {α β : Type} {plan first : Plan α} {next : α → Plan β}

/-- A plan that tells of no error and does not fail for the variant. -/
structure IsMild (plan : Plan α) : Prop where
  log : ∀ diagnostic ∈ plan.log, diagnostic.severity ≠ .error
  outcome : ∀ variant, plan.outcome ≠ .error (.error (.unsupported variant))

theorem isMild_pure (value : α) : (Pure.pure value : Plan α).IsMild := ⟨nofun, nofun⟩

theorem isMild_edit (edit : Edit) : (Plan.edit edit).IsMild := ⟨nofun, nofun⟩

theorem isMild_report {diagnostic : Diagnostic} (mild : diagnostic.severity ≠ .error) :
    (Plan.report diagnostic).IsMild :=
  ⟨fun _ told => List.mem_singleton.mp told ▸ mild, nofun⟩

theorem isMild_ofLookup (lookup : Except Fault α) : (ofLookup lookup).IsMild := by
  cases lookup <;> exact ⟨nofun, nofun⟩

theorem isMild_ofTile (lookup : Except TileError String) : (ofTile lookup).IsMild := by
  cases lookup <;> exact ⟨nofun, nofun⟩

theorem isMild_ofResult {result : Except GenerationError α}
    (own : ∀ variant, result ≠ .error (.unsupported variant)) : (ofResult result).IsMild := by
  cases result with
  | ok value => exact ⟨nofun, nofun⟩
  | error error =>
    refine ⟨nofun, fun variant failed => own variant ?_⟩
    cases failed
    rfl

theorem isMild_map (mild : plan.IsMild) (change : α → β) : (plan.map change).IsMild := by
  refine ⟨mild.log, fun variant failed => mild.outcome variant ?_⟩
  exact map_eq_error_iff.mp failed

/-- **A plan is mild when each of its steps is.** -/
theorem isMild_bind (mild : first.IsMild) (after : ∀ value, (next value).IsMild) :
    (first >>= next).IsMild := by
  refine ⟨tellsOnly_bind mild.log fun value => (after value).log, fun variant failed => ?_⟩
  cases ended : first.outcome with
  | error failure =>
    rw [bind_of_error ended] at failed
    cases failed
    exact mild.outcome variant ended
  | ok value =>
    rw [bind_of_ok ended] at failed
    exact (after value).outcome variant failed

theorem isMild_all {plans : List (Plan α)} (mild : ∀ plan ∈ plans, plan.IsMild) :
    (all plans).IsMild := by
  induction plans with
  | nil => exact isMild_pure []
  | cons plan plans ih =>
    rw [all_cons]
    refine isMild_bind (mild plan List.mem_cons_self) fun value => isMild_map ?_ _
    exact ih fun other member => mild other (List.mem_cons_of_mem _ member)

theorem isMild_all_map {γ : Type} {items : List γ} {plan : γ → Plan α}
    (mild : ∀ item, (plan item).IsMild) : (all (items.map plan)).IsMild := by
  refine isMild_all fun _ member => ?_
  obtain ⟨item, _, rfl⟩ := List.mem_map.mp member
  exact mild item

end Plan

/-! ### The stages of generation -/

variable {db : Database} {design : Design}

theorem siteIndex_ne_unsupported (site lead : String) (variant : Variant) :
    siteIndex site lead ≠ .error (.unsupported variant) :=
  fun failed => nomatch siteIndex_eq_error_iff.mp failed

theorem Pad.edgeKind_ne_unsupported (site : String) (location : Location) (variant : Variant) :
    edgeKind db site location ≠ .error (.unsupported variant) :=
  fun failed => nomatch Pad.edgeKind_eq_error failed

theorem Design.wordOrZero_ne_unsupported (properties : Properties) (key : String) (width : Nat)
    (variant : Variant) :
    design.wordOrZero properties key width ≠ .error (.unsupported variant) := by
  intro failed
  obtain ⟨_, _, same⟩ := wordOrZero_eq_error failed
  cases same

theorem isMild_planArc (pip : PipId) : (planArc db pip).IsMild := by
  unfold planArc
  refine Plan.isMild_bind (Plan.isMild_ofLookup _) fun _ => ?_
  refine Plan.isMild_bind (Plan.isMild_ofTile _) fun _ => ?_
  refine Plan.isMild_bind (Plan.isMild_ofLookup _) fun _ => ?_
  exact Plan.isMild_bind (Plan.isMild_ofLookup _) fun _ => Plan.isMild_edit _

theorem Encoder.isMild_plan {encoder : Encoder} (registered : encoder ∈ Encoder.registered)
    (cell : Cell) (bel : BelId) : (encoder.plan db design cell bel).IsMild := by
  rcases Encoder.mem_registered_iff.mp registered with rfl | rfl | rfl
  · refine Plan.isMild_bind (Plan.isMild_ofTile _) fun _ => ?_
    refine Plan.isMild_bind (Plan.isMild_ofLookup _) fun _ => ?_
    refine Plan.isMild_bind (Plan.isMild_ofResult (siteIndex_ne_unsupported _ _)) fun _ => ?_
    refine Plan.isMild_bind (Plan.isMild_edit _) fun _ => ?_
    refine Plan.isMild_bind (Plan.isMild_all_map fun word => ?_) fun _ => ?_
    · exact Plan.isMild_bind (Plan.isMild_ofResult (Design.wordOrZero_ne_unsupported _ _ _))
        fun _ => Plan.isMild_edit _
    exact Plan.isMild_bind (Plan.isMild_all_map fun _ => Plan.isMild_edit _)
      fun _ => Plan.isMild_pure _
  · refine Plan.isMild_bind (Plan.isMild_ofLookup _) fun _ => ?_
    refine Plan.isMild_bind (Plan.isMild_ofResult (siteIndex_ne_unsupported _ _)) fun _ => ?_
    refine Plan.isMild_bind (Plan.isMild_ofResult (Pad.edgeKind_ne_unsupported _ _)) fun _ => ?_
    exact Plan.isMild_bind (Plan.isMild_ofTile _) fun _ => Plan.isMild_edit _
  · refine Plan.isMild_bind (Plan.isMild_ofTile _) fun _ => ?_
    exact Plan.isMild_bind (Plan.isMild_edit _) fun _ => Plan.isMild_edit _

theorem isMild_planCell (cell : Cell) : (planCell db design cell).IsMild := by
  unfold planCell
  cases cell.bel with
  | none =>
    refine Plan.isMild_bind (Plan.isMild_ofLookup _) fun _ => ?_
    exact Plan.isMild_bind (Plan.isMild_report nofun) fun _ => Plan.isMild_pure _
  | some bel =>
    refine Plan.isMild_bind (Plan.isMild_ofLookup _) fun kind => ?_
    cases known : Encoder.forKind? kind with
    | none => exact Plan.isMild_pure _
    | some encoder =>
      have registered := (Encoder.forKind?_eq_some known).1
      exact Plan.isMild_bind (Encoder.isMild_plan registered cell bel) fun _ => Plan.isMild_pure _

/-- **The stages after the base configuration are mild.** -/
theorem isMild_planDesign (db : Database) (design : Design) : (planDesign db design).IsMild := by
  refine Plan.isMild_bind (Plan.isMild_map (Plan.isMild_all_map isMild_planArc) _) fun _ => ?_
  refine Plan.isMild_bind ?_ fun _ => Plan.isMild_pure _
  refine Plan.isMild_bind (Plan.isMild_all_map isMild_planCell) fun _ => ?_
  exact Plan.isMild_bind (Plan.isMild_all_map fun _ => Plan.isMild_report nofun)
    fun _ => Plan.isMild_pure _

/-! ### Errors of generation -/

theorem seed?_eq_none_iff {document : Document} {variant : Variant} :
    document.seed? variant = none ↔ variant.isSupported = false := by
  rw [Document.seed?, Option.map_eq_none_iff, Variant.isSupported, Option.isSome_eq_false_iff,
    Option.isNone_iff_eq_none]

/-- A run tells of a failure that generation has not told of. -/
theorem failureLog_eq (failure : Failure)
    (untold : ∀ variant, failure ≠ .error (.unsupported variant)) :
    ∃ message, CommandLine.failureLog failure = [CommandLine.failureDiagnostic message] := by
  unfold CommandLine.failureLog
  split
  · exact absurd rfl (untold _)
  · exact ⟨_, rfl⟩
  · exact ⟨_, rfl⟩

/-- **A document comes without errors, and a failure with one**, which generation or the run tells
of. -/
theorem errors_generate (db : Database) (design : Design) :
    (∀ document, (generate db design).2 = .ok document →
      db.variant.isSupported = true ∧ (generate db design).1.errors = []) ∧
    ∀ failure, (generate db design).2 = .error failure → ∃ diagnostic,
      ((generate db design).1 ++ CommandLine.failureLog failure).errors = [diagnostic] ∧
        diagnostic.code = ⟨.bitstream, if db.variant.isSupported then 505 else 502⟩ := by
  have mild := isMild_planDesign db design
  have silent := Log.errors_eq_nil_iff.mpr mild.log
  unfold generate
  cases seeded : ({} : Document).seed? db.variant with
  | none =>
    have unsupported := seed?_eq_none_iff.mp seeded
    refine ⟨nofun, fun failure failed => ?_⟩
    cases failed
    exact ⟨unsupportedDiagnostic db.variant, rfl, by rw [unsupported]; rfl⟩
  | some base =>
    have supported : db.variant.isSupported = true := by
      rw [← Bool.not_eq_false, ← seed?_eq_none_iff, seeded]
      nofun
    dsimp only
    cases ended : (planDesign db design).outcome with
    | ok made =>
      refine ⟨fun document _ => ⟨supported, ?_⟩, nofun⟩
      rw [Log.errors_append, silent]
      rfl
    | error failure =>
      refine ⟨nofun, fun other failed => ?_⟩
      cases failed
      obtain ⟨message, told⟩ := failureLog_eq failure fun variant same =>
        mild.outcome variant (same ▸ ended)
      refine ⟨CommandLine.failureDiagnostic message, ?_, by rw [supported]; rfl⟩
      rw [told, Log.errors_append, silent]
      rfl

end FabricConfig
