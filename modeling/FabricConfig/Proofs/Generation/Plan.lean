import FabricConfig.Generation.Plan
import FabricConfig.Proofs.Outcome
/-!
# What plans make

A plan is known by what it makes when it comes to its end, its edits and its outcome, by what it has
made when it fails, and by whether it can meet a fault. All are read off the parts of a plan.

* `bind_of_ok`, `bind_of_error`: what one plan and then another come to.
* `Makes`, `makes_bind_iff`, `makes_all_iff`: the edits and the outcome of a plan from its parts.
* `Fails`, `fails_bind_iff`, `fails_all_iff`: the same of a plan that does not come to its end.
* `MakesOnly`, `makesOnly_bind`, `makesOnly_all`: what all edits of a plan are, however it ends.
* `TellsOnly`, `tellsOnly_bind`, `tellsOnly_all`: what all its diagnostics are.
* `IsSafe`, `isSafe_bind`, `isSafe_all`: a plan whose parts meet no fault meets none.
* `effect`, `effect_bind`, `effect_all_cons`: what a plan does to a document, from its parts.
* `leave`, `run`: the document that a plan leaves behind.
-/

namespace FabricConfig

namespace Plan

variable {α β : Type} {plan first : Plan α} {next : α → Plan β} {edits : List Edit}

/-! ### Two steps -/

/-- A plan that ends so is followed by what depends on its outcome. -/
theorem bind_of_ok {value : α} (ended : first.outcome = .ok value) :
    first >>= next =
      ⟨first.edits ++ (next value).edits, first.log ++ (next value).log, (next value).outcome⟩ := by
  show Plan.bind first next = _
  unfold Plan.bind
  rw [ended]

theorem bind_of_error {failure : Failure} (failed : first.outcome = .error failure) :
    first >>= next = ⟨first.edits, first.log, .error failure⟩ := by
  show Plan.bind first next = _
  unfold Plan.bind
  rw [failed]

/-! ### Edits and outcomes -/

/-- A plan comes to its end with these edits and this outcome. -/
structure Makes (plan : Plan α) (edits : List Edit) (value : α) : Prop where
  edits : plan.edits = edits
  outcome : plan.outcome = .ok value

theorem makes_pure_iff {value result : α} :
    (Pure.pure value : Plan α).Makes edits result ↔ edits = [] ∧ result = value := by
  constructor
  · rintro ⟨rfl, same⟩
    cases same
    exact ⟨rfl, rfl⟩
  · rintro ⟨rfl, rfl⟩
    exact ⟨rfl, rfl⟩

/-- **One plan and then another** make the edits of both. -/
theorem makes_bind_iff {result : β} :
    (first >>= next).Makes edits result ↔ ∃ value front rest, first.Makes front value ∧
      (next value).Makes rest result ∧ edits = front ++ rest := by
  refine ⟨fun made => ?_, ?_⟩
  · cases found : first.outcome with
    | error failure =>
      rw [bind_of_error found] at made
      cases made.outcome
    | ok value =>
      rw [bind_of_ok found] at made
      exact ⟨value, first.edits, (next value).edits, ⟨rfl, found⟩, ⟨rfl, made.outcome⟩,
        made.edits.symm⟩
  · rintro ⟨value, front, rest, ⟨rfl, found⟩, ⟨rfl, ended⟩, rfl⟩
    rw [bind_of_ok found]
    exact ⟨rfl, ended⟩

theorem makes_map_iff {change : α → β} {result : β} :
    (plan.map change).Makes edits result ↔ ∃ value, plan.Makes edits value ∧ result = change value := by
  unfold Plan.map
  constructor
  · rintro ⟨made, ended⟩
    dsimp only at made ended
    cases found : plan.outcome with
    | error failure =>
      rw [found] at ended
      cases ended
    | ok value =>
      rw [found] at ended
      cases ended
      exact ⟨value, ⟨made, found⟩, rfl⟩
  · rintro ⟨value, ⟨made, found⟩, rfl⟩
    refine ⟨made, ?_⟩
    dsimp only
    rw [found]
    rfl

theorem makes_edit_iff {edit : Edit} {result : Unit} :
    (Plan.edit edit).Makes edits result ↔ edits = [edit] :=
  ⟨fun made => made.edits.symm, fun same => ⟨same.symm, rfl⟩⟩

theorem makes_report_iff {diagnostic : Diagnostic} {result : Unit} :
    (Plan.report diagnostic).Makes edits result ↔ edits = [] :=
  ⟨fun made => made.edits.symm, fun same => ⟨same.symm, rfl⟩⟩

/-- A plan without edits that has the outcome of something that may fail, and fails for what that
failed for. Look-ups and conversions are such plans. -/
structure Asks {ε : Type} (plan : Plan α) (given : Except ε α) (blame : ε → Failure) : Prop where
  edits : plan.edits = []
  outcome : plan.outcome = given.mapError blame

theorem asks_ofLookup (lookup : Except Fault α) : (ofLookup lookup).Asks lookup .fault := by
  cases lookup <;> exact ⟨rfl, rfl⟩

theorem asks_ofTile (lookup : Except TileError String) :
    (ofTile lookup).Asks lookup fun error => .error (.missingTile error) := by
  cases lookup <;> exact ⟨rfl, rfl⟩

theorem asks_ofResult (conversion : Except GenerationError α) :
    (ofResult conversion).Asks conversion .error := by
  cases conversion <;> exact ⟨rfl, rfl⟩

theorem Asks.makes_iff {ε : Type} {given : Except ε α} {blame : ε → Failure} {value : α}
    (asks : plan.Asks given blame) : plan.Makes edits value ↔ edits = [] ∧ given = .ok value := by
  have ends : plan.outcome = .ok value ↔ given = .ok value := by
    rw [asks.outcome]
    exact mapError_eq_ok_iff
  rw [← ends]
  exact ⟨fun made => ⟨made.edits.symm.trans asks.edits, made.outcome⟩,
    fun ⟨quiet, ended⟩ => ⟨asks.edits.trans quiet.symm, ended⟩⟩

/-- A plan that only asks leaves all edits to what follows. -/
theorem Asks.makes_bind_iff {ε : Type} {given : Except ε α} {blame : ε → Failure} {result : β}
    (asks : first.Asks given blame) :
    (first >>= next).Makes edits result ↔
      ∃ value, given = .ok value ∧ (next value).Makes edits result := by
  simp only [Plan.makes_bind_iff, asks.makes_iff]
  constructor
  · rintro ⟨value, _, rest, ⟨rfl, found⟩, ended, rfl⟩
    exact ⟨value, found, ended⟩
  · rintro ⟨value, found, ended⟩
    exact ⟨value, [], edits, ⟨rfl, found⟩, ended, rfl⟩

theorem makes_ofLookup_bind_iff {lookup : Except Fault α} {result : β} :
    (ofLookup lookup >>= next).Makes edits result ↔
      ∃ value, lookup = .ok value ∧ (next value).Makes edits result :=
  (asks_ofLookup lookup).makes_bind_iff

theorem makes_ofTile_bind_iff {lookup : Except TileError String} {next : String → Plan β}
    {result : β} :
    (ofTile lookup >>= next).Makes edits result ↔
      ∃ tile, lookup = .ok tile ∧ (next tile).Makes edits result :=
  (asks_ofTile lookup).makes_bind_iff

theorem makes_ofResult_bind_iff {conversion : Except GenerationError α} {result : β} :
    (ofResult conversion >>= next).Makes edits result ↔
      ∃ value, conversion = .ok value ∧ (next value).Makes edits result :=
  (asks_ofResult conversion).makes_bind_iff

theorem makes_edit_bind_iff {edit : Edit} {next : Unit → Plan β} {result : β} :
    (Plan.edit edit >>= next).Makes edits result ↔
      ∃ rest, (next ()).Makes rest result ∧ edits = edit :: rest := by
  rw [makes_bind_iff]
  constructor
  · rintro ⟨_, front, rest, made, ended, rfl⟩
    rw [makes_edit_iff.mp made]
    exact ⟨rest, ended, rfl⟩
  · rintro ⟨rest, ended, rfl⟩
    exact ⟨(), [edit], rest, makes_edit_iff.mpr rfl, ended, rfl⟩

theorem all_nil : all ([] : List (Plan α)) = Pure.pure [] := rfl

theorem all_cons (plan : Plan α) (plans : List (Plan α)) :
    all (plan :: plans) = plan >>= fun value => (all plans).map (value :: ·) := rfl

/-- **Plans in turn come to their end when each does**, and make the edits of all. -/
theorem makes_all_iff {plans : List (Plan α)} {values : List α} :
    (all plans).Makes edits values ↔
      edits = plans.flatMap (·.edits) ∧ plans.map (·.outcome) = values.map .ok := by
  induction plans generalizing edits values with
  | nil =>
    refine makes_pure_iff.trans (and_congr_right fun _ => ?_)
    rw [List.map_nil, eq_comm (a := []), List.map_eq_nil_iff]
  | cons plan plans ih =>
    simp only [all_cons, makes_bind_iff, makes_map_iff, ih, List.flatMap_cons, List.map_cons]
    constructor
    · rintro ⟨value, front, rest, made, ⟨others, ⟨rfl, ended⟩, rfl⟩, rfl⟩
      exact ⟨by rw [made.edits], by rw [List.map_cons, made.outcome, ended]⟩
    · rintro ⟨rfl, ended⟩
      cases values with
      | nil => cases ended
      | cons value others =>
        obtain ⟨found, rest⟩ := List.cons.inj ended
        exact ⟨value, plan.edits, _, ⟨rfl, found⟩, ⟨others, ⟨rfl, rest⟩, rfl⟩, rfl⟩

theorem exists_outcomes_iff {plans : List (Plan α)} :
    (∃ values : List α, plans.map (·.outcome) = values.map .ok) ↔
      ∀ plan ∈ plans, ∃ value, plan.outcome = .ok value := by
  constructor
  · rintro ⟨values, ended⟩ plan member
    have inside := List.mem_map_of_mem (f := (·.outcome)) member
    rw [ended] at inside
    obtain ⟨value, _, same⟩ := List.mem_map.mp inside
    exact ⟨value, same.symm⟩
  · intro each
    induction plans with
    | nil => exact ⟨[], rfl⟩
    | cons plan plans ih =>
      obtain ⟨value, found⟩ := each plan List.mem_cons_self
      obtain ⟨values, ended⟩ := ih fun other member => each other (List.mem_cons_of_mem _ member)
      exact ⟨value :: values, by rw [List.map_cons, List.map_cons, found, ended]⟩

theorem exists_makes_all_iff {plans : List (Plan α)} :
    (∃ values, (all plans).Makes edits values) ↔
      (∀ plan ∈ plans, ∃ value, plan.outcome = .ok value) ∧ edits = plans.flatMap (·.edits) := by
  simp only [makes_all_iff, exists_and_left, exists_outcomes_iff]
  exact and_comm

theorem all_map_edit {γ : Type} (items : List γ) (make : γ → Edit) :
    all (items.map fun item => Plan.edit (make item)) =
      ⟨items.map make, [], .ok (items.map fun _ => ())⟩ := by
  induction items with
  | nil => rfl
  | cons item items ih =>
    rw [List.map_cons, all_cons, ih]
    rfl

theorem all_map_report {γ : Type} (items : List γ) (note : γ → Diagnostic) :
    all (items.map fun item => Plan.report (note item)) =
      ⟨[], items.map note, .ok (items.map fun _ => ())⟩ := by
  induction items with
  | nil => rfl
  | cons item items ih =>
    rw [List.map_cons, all_cons, ih]
    rfl

/-- Edits in turn, and then another plan. -/
theorem makes_all_edit_bind_iff {γ : Type} {items : List γ} {make : γ → Edit}
    {next : List Unit → Plan β} {result : β} :
    (all (items.map fun item => Plan.edit (make item)) >>= next).Makes edits result ↔
      ∃ rest, (next (items.map fun _ => ())).Makes rest result ∧
        edits = items.map make ++ rest := by
  rw [all_map_edit, makes_bind_iff]
  constructor
  · rintro ⟨values, front, rest, ⟨rfl, same⟩, ended, rfl⟩
    cases same
    exact ⟨rest, ended, rfl⟩
  · rintro ⟨rest, ended, rfl⟩
    exact ⟨_, _, rest, ⟨rfl, rfl⟩, ended, rfl⟩

/-! ### Failures -/

section Failures

variable {failure : Failure}

/-- A plan fails so, after these edits. -/
structure Fails (plan : Plan α) (edits : List Edit) (failure : Failure) : Prop where
  edits : plan.edits = edits
  outcome : plan.outcome = .error failure

theorem not_fails_pure {value : α} : ¬(Pure.pure value : Plan α).Fails edits failure :=
  fun failed => nomatch failed.outcome

theorem not_fails_report {diagnostic : Diagnostic} : ¬(report diagnostic).Fails edits failure :=
  fun failed => nomatch failed.outcome

theorem not_fails_edit {edit : Edit} : ¬(Plan.edit edit).Fails edits failure :=
  fun failed => nomatch failed.outcome

/-- **One plan and then another** fail when the first does, or the second after the first. -/
theorem fails_bind_iff :
    (first >>= next).Fails edits failure ↔ first.Fails edits failure ∨
      ∃ value front rest, first.Makes front value ∧ (next value).Fails rest failure ∧
        edits = front ++ rest := by
  cases ended : first.outcome with
  | error early =>
    rw [bind_of_error ended]
    constructor
    · rintro ⟨rfl, same⟩
      cases same
      exact .inl ⟨rfl, ended⟩
    · rintro (⟨rfl, failed⟩ | ⟨value, front, rest, made, _⟩)
      · rw [ended] at failed
        cases failed
        exact ⟨rfl, rfl⟩
      · rw [made.outcome] at ended
        cases ended
  | ok value =>
    rw [bind_of_ok ended]
    constructor
    · rintro ⟨rfl, failed⟩
      exact .inr ⟨value, first.edits, (next value).edits, ⟨rfl, ended⟩, ⟨rfl, failed⟩, rfl⟩
    · rintro (failed | ⟨other, front, rest, ⟨rfl, found⟩, ⟨rfl, failed⟩, rfl⟩)
      · rw [failed.outcome] at ended
        cases ended
      · rw [ended] at found
        cases found
        exact ⟨rfl, failed⟩

theorem fails_map_iff {change : α → β} :
    (plan.map change).Fails edits failure ↔ plan.Fails edits failure := by
  unfold Plan.map
  constructor
  · rintro ⟨made, failed⟩
    exact ⟨made, map_eq_error_iff.mp failed⟩
  · rintro ⟨made, failed⟩
    exact ⟨made, map_eq_error_iff.mpr failed⟩

/-- A plan that asks and then goes on fails for what was asked, before any edit, or later. -/
theorem Asks.fails_bind_iff {ε : Type} {given : Except ε α} {blame : ε → Failure}
    (asks : first.Asks given blame) :
    (first >>= next).Fails edits failure ↔
      (∃ error, given = .error error ∧ edits = [] ∧ failure = blame error) ∨
        ∃ value, given = .ok value ∧ (next value).Fails edits failure := by
  rw [Plan.fails_bind_iff]
  simp only [asks.makes_iff]
  refine or_congr ?_ ?_
  · constructor
    · rintro ⟨made, failed⟩
      rw [asks.outcome] at failed
      obtain ⟨error, refused, blamed⟩ := mapError_eq_error_iff.mp failed
      exact ⟨error, refused, made.symm.trans asks.edits, blamed⟩
    · rintro ⟨error, refused, rfl, blamed⟩
      exact ⟨asks.edits, asks.outcome.trans (mapError_eq_error_iff.mpr ⟨error, refused, blamed⟩)⟩
  · constructor
    · rintro ⟨value, _, rest, ⟨rfl, found⟩, failed, rfl⟩
      exact ⟨value, found, failed⟩
    · rintro ⟨value, found, failed⟩
      exact ⟨value, [], edits, ⟨rfl, found⟩, failed, rfl⟩

theorem fails_ofLookup_bind_iff {lookup : Except Fault α} :
    (ofLookup lookup >>= next).Fails edits failure ↔
      (∃ fault, lookup = .error fault ∧ edits = [] ∧ failure = .fault fault) ∨
        ∃ value, lookup = .ok value ∧ (next value).Fails edits failure :=
  (asks_ofLookup lookup).fails_bind_iff

theorem fails_ofTile_bind_iff {lookup : Except TileError String} {next : String → Plan β} :
    (ofTile lookup >>= next).Fails edits failure ↔
      (∃ error, lookup = .error error ∧ edits = [] ∧ failure = .error (.missingTile error)) ∨
        ∃ tile, lookup = .ok tile ∧ (next tile).Fails edits failure :=
  (asks_ofTile lookup).fails_bind_iff

theorem fails_ofResult_bind_iff {conversion : Except GenerationError α} :
    (ofResult conversion >>= next).Fails edits failure ↔
      (∃ error, conversion = .error error ∧ edits = [] ∧ failure = .error error) ∨
        ∃ value, conversion = .ok value ∧ (next value).Fails edits failure :=
  (asks_ofResult conversion).fails_bind_iff

/-- A plan fails only by its first part when its second never does. -/
theorem fails_bind_iff_of_not_fails (never : ∀ value rest, ¬(next value).Fails rest failure) :
    (first >>= next).Fails edits failure ↔ first.Fails edits failure := by
  rw [fails_bind_iff, or_iff_left]
  rintro ⟨value, _, rest, _, failed, _⟩
  exact never value rest failed

theorem fails_edit_bind_iff {edit : Edit} {next : Unit → Plan β} :
    (Plan.edit edit >>= next).Fails edits failure ↔
      ∃ rest, (next ()).Fails rest failure ∧ edits = edit :: rest := by
  rw [fails_bind_iff, or_iff_right not_fails_edit]
  simp only [makes_edit_iff]
  constructor
  · rintro ⟨_, _, rest, rfl, failed, rfl⟩
    exact ⟨rest, failed, rfl⟩
  · rintro ⟨rest, failed, rfl⟩
    exact ⟨(), [edit], rest, rfl, failed, rfl⟩

/-- **Plans in turn fail at the first that does**, after the edits of those before it. -/
theorem fails_all_iff {plans : List (Plan α)} :
    (all plans).Fails edits failure ↔ ∃ before plan after values front rest,
      plans = before ++ plan :: after ∧ (all before).Makes front values ∧
        plan.Fails rest failure ∧ edits = front ++ rest := by
  induction plans generalizing edits with
  | nil =>
    refine iff_of_false not_fails_pure ?_
    rintro ⟨before, plan, after, _, _, _, same, _⟩
    exact absurd same.symm (List.append_ne_nil_of_right_ne_nil before (List.cons_ne_nil plan after))
  | cons plan plans ih =>
    simp only [all_cons, fails_bind_iff, fails_map_iff, ih]
    constructor
    · rintro (failed | ⟨value, front, _, made, ⟨before, culprit, after, values, middle, rest,
        rfl, others, failed, rfl⟩, rfl⟩)
      · exact ⟨[], plan, plans, [], [], edits, rfl, makes_pure_iff.mpr ⟨rfl, rfl⟩, failed, rfl⟩
      · refine ⟨plan :: before, culprit, after, value :: values, front ++ middle, rest, rfl, ?_,
          failed, (List.append_assoc front middle rest).symm⟩
        rw [all_cons, makes_bind_iff]
        exact ⟨value, front, middle, made, makes_map_iff.mpr ⟨values, others, rfl⟩, rfl⟩
    · rintro ⟨before, culprit, after, values, front, rest, same, made, failed, rfl⟩
      cases before with
      | nil =>
        cases same
        obtain ⟨rfl, _⟩ := makes_pure_iff.mp made
        exact .inl failed
      | cons head before =>
        cases same
        rw [all_cons, makes_bind_iff] at made
        obtain ⟨value, start, middle, headMade, others, rfl⟩ := made
        obtain ⟨later, othersMade, _⟩ := makes_map_iff.mp others
        exact .inr ⟨value, start, middle ++ rest, headMade, ⟨before, culprit, after, later, middle,
          rest, rfl, othersMade, failed, rfl⟩, List.append_assoc start middle rest⟩

theorem fails_all_map_iff {γ : Type} {items : List γ} {plan : γ → Plan α} :
    (all (items.map plan)).Fails edits failure ↔ ∃ before item after values front rest,
      items = before ++ item :: after ∧ (all (before.map plan)).Makes front values ∧
        (plan item).Fails rest failure ∧ edits = front ++ rest := by
  rw [fails_all_iff]
  constructor
  · rintro ⟨_, _, _, values, front, rest, split, made, failed, rfl⟩
    obtain ⟨before, others, rfl, rfl, found⟩ := List.map_eq_append_iff.mp split
    obtain ⟨item, after, rfl, rfl, _⟩ := List.map_eq_cons_iff.mp found
    exact ⟨before, item, after, values, front, rest, rfl, made, failed, rfl⟩
  · rintro ⟨before, item, after, values, front, rest, rfl, made, failed, rfl⟩
    refine ⟨before.map plan, plan item, after.map plan, values, front, rest, ?_, made, failed, rfl⟩
    rw [List.map_append, List.map_cons]

theorem not_fails_all_map {γ : Type} {items : List γ} {plan : γ → Plan α}
    (never : ∀ item rest, ¬(plan item).Fails rest failure) :
    ¬(all (items.map plan)).Fails edits failure := by
  rw [fails_all_map_iff]
  rintro ⟨_, item, _, _, _, rest, _, _, failed, _⟩
  exact never item rest failed

end Failures

/-! ### Footprints -/

section Footprints

variable {allowed : Edit → Prop}

/-- All edits of a plan, however it ends, are such edits. -/
def MakesOnly (plan : Plan α) (allowed : Edit → Prop) : Prop := ∀ edit ∈ plan.edits, allowed edit

theorem makesOnly_pure (value : α) : (Pure.pure value : Plan α).MakesOnly allowed := nofun

theorem makesOnly_report (diagnostic : Diagnostic) : (report diagnostic).MakesOnly allowed := nofun

theorem makesOnly_edit {edit : Edit} (fits : allowed edit) : (Plan.edit edit).MakesOnly allowed :=
  fun _ member => List.mem_singleton.mp member ▸ fits

theorem makesOnly_map (only : plan.MakesOnly allowed) (change : α → β) :
    (plan.map change).MakesOnly allowed := only

/-- **A plan makes only what each of its steps makes.** -/
theorem makesOnly_bind (only : first.MakesOnly allowed)
    (after : ∀ value, first.outcome = .ok value → (next value).MakesOnly allowed) :
    (first >>= next).MakesOnly allowed := by
  cases ended : first.outcome with
  | error failure =>
    rw [bind_of_error ended]
    exact only
  | ok value =>
    rw [bind_of_ok ended]
    intro edit made
    exact (List.mem_append.mp made).elim (only edit) (after value ended edit)

theorem Asks.makesOnly_bind {ε : Type} {given : Except ε α} {blame : ε → Failure}
    (asks : first.Asks given blame)
    (after : ∀ value, given = .ok value → (next value).MakesOnly allowed) :
    (first >>= next).MakesOnly allowed := by
  refine Plan.makesOnly_bind ?_ fun value ended => after value ?_
  · rw [MakesOnly, asks.edits]
    exact nofun
  · exact (asks.makes_iff.mp ⟨rfl, ended⟩).2

theorem makesOnly_all {plans : List (Plan α)} (only : ∀ plan ∈ plans, plan.MakesOnly allowed) :
    (all plans).MakesOnly allowed := by
  induction plans with
  | nil => exact makesOnly_pure []
  | cons plan plans ih =>
    rw [all_cons]
    refine makesOnly_bind (only plan List.mem_cons_self) fun value _ => makesOnly_map ?_ _
    exact ih fun other member => only other (List.mem_cons_of_mem _ member)

theorem makesOnly_all_map {γ : Type} {items : List γ} {plan : γ → Plan α}
    (only : ∀ item ∈ items, (plan item).MakesOnly allowed) :
    (all (items.map plan)).MakesOnly allowed :=
  makesOnly_all (List.forall_mem_map.mpr only)

end Footprints

/-! ### Diagnostics -/

section Diagnostics

variable {allowed : Diagnostic → Prop}

/-- All diagnostics of a plan, however it ends, are such diagnostics. -/
def TellsOnly (plan : Plan α) (allowed : Diagnostic → Prop) : Prop :=
  ∀ diagnostic ∈ plan.log, allowed diagnostic

theorem tellsOnly_pure (value : α) : (Pure.pure value : Plan α).TellsOnly allowed := nofun

theorem tellsOnly_edit (edit : Edit) : (Plan.edit edit).TellsOnly allowed := nofun

theorem tellsOnly_ofLookup (lookup : Except Fault α) : (ofLookup lookup).TellsOnly allowed := by
  cases lookup <;> exact nofun

theorem tellsOnly_ofTile (lookup : Except TileError String) :
    (ofTile lookup).TellsOnly allowed := by
  cases lookup <;> exact nofun

theorem tellsOnly_ofResult (result : Except GenerationError α) :
    (ofResult result).TellsOnly allowed := by
  cases result <;> exact nofun

theorem tellsOnly_map (only : plan.TellsOnly allowed) (change : α → β) :
    (plan.map change).TellsOnly allowed := only

/-- **A plan tells only what each of its steps tells.** -/
theorem tellsOnly_bind (only : first.TellsOnly allowed)
    (after : ∀ value, (next value).TellsOnly allowed) : (first >>= next).TellsOnly allowed := by
  cases ended : first.outcome with
  | error failure =>
    rw [bind_of_error ended]
    exact only
  | ok value =>
    rw [bind_of_ok ended]
    intro diagnostic told
    exact (List.mem_append.mp told).elim (only diagnostic) (after value diagnostic)

theorem tellsOnly_all {plans : List (Plan α)} (only : ∀ plan ∈ plans, plan.TellsOnly allowed) :
    (all plans).TellsOnly allowed := by
  induction plans with
  | nil => exact tellsOnly_pure []
  | cons plan plans ih =>
    rw [all_cons]
    refine tellsOnly_bind (only plan List.mem_cons_self) fun value => tellsOnly_map ?_ _
    exact ih fun other member => only other (List.mem_cons_of_mem _ member)

theorem tellsOnly_all_map {γ : Type} {items : List γ} {plan : γ → Plan α}
    (only : ∀ item, (plan item).TellsOnly allowed) : (all (items.map plan)).TellsOnly allowed :=
  tellsOnly_all (List.forall_mem_map.mpr fun item _ => only item)

end Diagnostics

/-! ### Faults -/

/-- A plan that meets no fault: it comes to its end or fails with an error. -/
def IsSafe (plan : Plan α) : Prop := ∀ fault, plan.outcome ≠ .error (.fault fault)

theorem isSafe_pure (value : α) : (Pure.pure value : Plan α).IsSafe := nofun

theorem isSafe_edit (edit : Edit) : (Plan.edit edit).IsSafe := nofun

theorem isSafe_report (diagnostic : Diagnostic) : (Plan.report diagnostic).IsSafe := nofun

theorem isSafe_ofTile (lookup : Except TileError String) : (ofTile lookup).IsSafe := by
  cases lookup <;> exact nofun

theorem isSafe_ofResult (result : Except GenerationError α) : (ofResult result).IsSafe := by
  cases result <;> exact nofun

/-- A look-up meets no fault when it finds something. -/
theorem isSafe_ofLookup {lookup : Except Fault α} (found : ∃ value, lookup = .ok value) :
    (ofLookup lookup).IsSafe := by
  obtain ⟨value, rfl⟩ := found
  exact nofun

theorem isSafe_map (safe : plan.IsSafe) (change : α → β) : (plan.map change).IsSafe := by
  intro fault failed
  unfold Plan.map at failed
  dsimp only at failed
  cases found : plan.outcome with
  | error failure =>
    rw [found] at failed
    cases failed
    exact safe fault found
  | ok value =>
    rw [found] at failed
    cases failed

/-- **A plan is safe when it is safe up to each of its steps.** -/
theorem isSafe_bind (safe : first.IsSafe)
    (after : ∀ value, first.outcome = .ok value → (next value).IsSafe) :
    (first >>= next).IsSafe := by
  intro fault
  cases ended : first.outcome with
  | error failure =>
    rw [bind_of_error ended]
    intro same
    cases same
    exact safe fault ended
  | ok value =>
    rw [bind_of_ok ended]
    exact after value ended fault

theorem isSafe_all {plans : List (Plan α)} (safe : ∀ plan ∈ plans, plan.IsSafe) :
    (all plans).IsSafe := by
  induction plans with
  | nil => exact isSafe_pure []
  | cons plan plans ih =>
    rw [all_cons]
    refine isSafe_bind (safe plan List.mem_cons_self) fun value _ => isSafe_map ?_ _
    exact ih fun other member => safe other (List.mem_cons_of_mem _ member)

/-! ### Effects -/

/-- A plan without its diagnostics and the value it ends with. Its edits and whether and how it
fails, which is all that reaches a document, are left. -/
def effect (plan : Plan α) : Plan Unit := ⟨plan.edits, [], plan.outcome.map fun _ => ()⟩

theorem effect_pure (value : α) : (Pure.pure value : Plan α).effect = Pure.pure () := rfl

theorem effect_report (diagnostic : Diagnostic) : (report diagnostic).effect = Pure.pure () := rfl

theorem effect_map (plan : Plan α) (change : α → β) : (plan.map change).effect = plan.effect := by
  unfold effect Plan.map
  cases plan.outcome <;> rfl

/-- **The effect of one plan and then another** is that of both in turn, when the effect of the
second does not depend on how the first ends. -/
theorem effect_bind {rest : Plan Unit} (same : ∀ value, (next value).effect = rest) :
    (first >>= next).effect = first.effect >>= fun _ => rest := by
  cases ended : first.outcome with
  | error failure =>
    have failed : first.effect.outcome = .error failure := map_eq_error_iff.mpr ended
    rw [bind_of_error ended, bind_of_error failed]
    rfl
  | ok value =>
    have done : first.effect.outcome = .ok () := map_eq_ok_iff.mpr ⟨value, ended, rfl⟩
    rw [bind_of_ok ended, bind_of_ok done, ← same value]
    rfl

theorem ofLookup_ok_bind (value : α) : (ofLookup (.ok value) >>= next) = next value := rfl

theorem pure_bind_const (rest : Plan Unit) : (Pure.pure () >>= fun _ => rest) = rest := rfl

/-- A plan that does nothing may follow. -/
theorem effect_bind_of_silent (silent : ∀ value, (next value).effect = Pure.pure ()) :
    (first >>= next).effect = first.effect := by
  rw [effect_bind silent]
  show Plan.bind first.effect _ = _
  unfold Plan.bind
  cases ended : first.outcome <;> simp [effect, ended, Except.map, Pure.pure, Plan.pure]

theorem effect_all_cons (plan : Plan α) (plans : List (Plan α)) :
    (all (plan :: plans)).effect = plan.effect >>= fun _ => (all plans).effect :=
  effect_bind fun _ => effect_map _ _

/-- Plans that do nothing may come before others. -/
theorem effect_all_map_append_of_silent {γ : Type} {items : List γ} {plan : γ → Plan α}
    {others : List (Plan α)} (silent : ∀ item ∈ items, (plan item).effect = Pure.pure ()) :
    (all (items.map plan ++ others)).effect = (all others).effect := by
  induction items with
  | nil => rfl
  | cons item items ih =>
    rw [List.map_cons, List.cons_append, effect_all_cons, silent item List.mem_cons_self,
      pure_bind_const]
    exact ih fun other member => silent other (List.mem_cons_of_mem _ member)

theorem effect_all_map_of_silent {γ : Type} {items : List γ} {plan : γ → Plan α}
    (silent : ∀ item ∈ items, (plan item).effect = Pure.pure ()) :
    (all (items.map plan)).effect = Pure.pure () := by
  rw [← List.append_nil (items.map plan), effect_all_map_append_of_silent silent]
  rfl

/-- The document that a plan leaves behind, however it ends. -/
def leave (plan : Plan α) (document : Document) : Document := document.applyAll plan.edits

/-- The document that a plan leaves behind when it comes to its end. -/
def run (plan : Plan α) (document : Document) : Except Failure Document :=
  plan.outcome.map fun _ => document.applyAll plan.edits

theorem Makes.run {value : α} (made : plan.Makes edits value) (document : Document) :
    plan.run document = .ok (document.applyAll edits) := by
  rw [Plan.run, made.outcome, made.edits]
  rfl

theorem run_effect (plan : Plan α) (document : Document) :
    plan.effect.run document = plan.run document := by
  unfold run effect
  cases plan.outcome <;> rfl

theorem run_congr {other : Plan β} (same : plan.effect = other.effect) (document : Document) :
    plan.run document = other.run document := by
  rw [← run_effect, same, run_effect]

/-- **Running one plan and then another** is running each in turn. -/
theorem run_bind {rest : Plan Unit} (same : ∀ value, (next value).effect = rest)
    (document : Document) :
    (first >>= next).run document = first.run document >>= rest.run := by
  show (Plan.bind first next).run document = _
  unfold Plan.bind run
  cases first.outcome with
  | error failure => rfl
  | ok value =>
    rw [← same value]
    show (next value).outcome.map _ = ((next value).outcome.map _).map _
    cases (next value).outcome with
    | error failure => rfl
    | ok result => exact congrArg Except.ok (document.applyAll_append first.edits _)

theorem run_eq_ok_iff {document after : Document} : plan.run document = .ok after ↔
    (∃ value, plan.outcome = .ok value) ∧ document.applyAll plan.edits = after := by
  unfold run
  cases plan.outcome <;> simp [Except.map]

end Plan

end FabricConfig
