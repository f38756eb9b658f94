/-!
# Runs that may fail

* `bind_eq_ok_iff`, `map_eq_ok_iff`: a run of two steps succeeds when both do.
* `bind_eq_error_iff`: it fails as its first step does, or after it as its second step does.
* `mapError_eq_ok_iff`, `mapError_eq_error_iff`: blaming something else changes no success.
* `foldlM_invariant`: what every step keeps holds at the end of a run.
* `foldlM_error`: what is true of every step's errors is true of a run's.
* `foldlM_outcome`: a run succeeds when its items fit together, if each step decides whether the
  next item fits those before it.
-/

namespace FabricConfig

variable {α β ε σ : Type}

theorem bind_eq_ok_iff {first : Except ε α} {next : α → Except ε β} {result : β} :
    first >>= next = .ok result ↔ ∃ value, first = .ok value ∧ next value = .ok result := by
  cases first with
  | error fault => exact ⟨nofun, nofun⟩
  | ok value =>
    constructor
    · intro ran
      exact ⟨value, rfl, ran⟩
    · rintro ⟨_, same, ran⟩
      cases same
      exact ran

theorem bind_eq_error_iff {first : Except ε α} {next : α → Except ε β} {fault : ε} :
    first >>= next = .error fault ↔
      first = .error fault ∨ ∃ value, first = .ok value ∧ next value = .error fault := by
  cases first with
  | error cause =>
    constructor
    · intro failed
      exact .inl (congrArg Except.error (Except.error.inj failed))
    · rintro (failed | ⟨_, same, _⟩)
      · exact congrArg Except.error (Except.error.inj failed)
      · cases same
  | ok value =>
    constructor
    · intro failed
      exact .inr ⟨value, rfl, failed⟩
    · rintro (failed | ⟨_, same, failed⟩)
      · cases failed
      · cases same
        exact failed

theorem map_eq_ok_iff {first : Except ε α} {change : α → β} {result : β} :
    first.map change = .ok result ↔ ∃ value, first = .ok value ∧ change value = result := by
  cases first with
  | error fault => exact ⟨nofun, nofun⟩
  | ok value => simp [Except.map]

theorem exists_map_eq_ok_iff {first : Except ε α} {change : α → β} :
    (∃ result, first.map change = .ok result) ↔ ∃ value, first = .ok value := by
  cases first <;> simp [Except.map]

theorem map_eq_error_iff {first : Except ε α} {change : α → β} {fault : ε} :
    first.map change = .error fault ↔ first = .error fault := by
  cases first <;> simp [Except.map]

theorem mapError_eq_ok_iff {δ : Type} {first : Except ε α} {blame : ε → δ} {value : α} :
    first.mapError blame = .ok value ↔ first = .ok value := by
  cases first with
  | error cause => exact iff_of_false nofun nofun
  | ok found => exact ⟨fun same => by cases same; rfl, fun same => by cases same; rfl⟩

theorem mapError_eq_error_iff {δ : Type} {first : Except ε α} {blame : ε → δ} {fault : δ} :
    first.mapError blame = .error fault ↔ ∃ cause, first = .error cause ∧ fault = blame cause := by
  cases first with
  | error cause =>
    exact ⟨fun same => ⟨cause, rfl, (Except.error.inj same).symm⟩,
      fun ⟨_, same, blamed⟩ => by cases same; exact congrArg Except.error blamed.symm⟩
  | ok found => exact iff_of_false nofun fun ⟨_, same, _⟩ => nomatch same

theorem eq_ok_of_toOption {result : Except ε α} {value : α}
    (found : result.toOption = some value) : result = .ok value := by
  cases result with
  | error fault => cases found
  | ok other =>
    cases found
    rfl

/-- **What every step keeps holds at the end of a run.** -/
theorem foldlM_invariant (Holds : σ → Prop) {step : σ → α → Except ε σ}
    (kept : ∀ state item next, Holds state → step state item = .ok next → Holds next)
    {items : List α} {start last : σ} (ran : items.foldlM step start = .ok last)
    (initially : Holds start) : Holds last := by
  induction items generalizing start with
  | nil =>
    cases ran
    exact initially
  | cons item items ih =>
    rw [List.foldlM_cons, bind_eq_ok_iff] at ran
    obtain ⟨next, stepped, rest⟩ := ran
    exact ih rest (kept start item next initially stepped)

/-- What is true of the errors of every step is true of the error of a run. -/
theorem foldlM_error (Holds : ε → Prop) {step : σ → α → Except ε σ}
    (each : ∀ state item error, step state item = .error error → Holds error) {items : List α}
    {start : σ} {error : ε} (failed : items.foldlM step start = .error error) : Holds error := by
  induction items generalizing start with
  | nil => cases failed
  | cons item items ih =>
    rw [List.foldlM_cons] at failed
    cases stepped : step start item with
    | error first =>
      rw [stepped] at failed
      cases failed
      exact each start item _ stepped
    | ok next =>
      rw [stepped] at failed
      exact ih failed

/-- **A run succeeds exactly when its items fit together**, if a step succeeds exactly when its item
fits those before it. What the steps keep beside this may speak of all items so far. -/
theorem foldlM_outcome (Holds : List α → σ → Prop) (Fits : List α → Prop)
    {step : σ → α → Except ε σ} (front : ∀ before item, Fits (before ++ [item]) → Fits before)
    (one : ∀ before state item, Holds before state → Fits before →
      ((∃ next, step state item = .ok next) ↔ Fits (before ++ [item])) ∧
        ∀ next, step state item = .ok next → Holds (before ++ [item]) next)
    (before items : List α) {start : σ} (holds : Holds before start)
    (fits : Fits before) :
    ((∃ last, items.foldlM step start = .ok last) ↔ Fits (before ++ items)) ∧
      ∀ last, items.foldlM step start = .ok last → Holds (before ++ items) last := by
  have closed : ∀ items before, Fits (before ++ items) → Fits before := fun items => by
    induction items with
    | nil => simp
    | cons item items ih =>
      exact fun before whole => front before item (ih (before ++ [item]) (by simpa using whole))
  induction items generalizing before start with
  | nil =>
    rw [List.append_nil]
    refine ⟨iff_of_true ⟨start, rfl⟩ fits, fun last ran => ?_⟩
    cases ran
    exact holds
  | cons item items ih =>
    obtain ⟨exists_iff, kept⟩ := one before start item holds fits
    have rest : ∀ next, step start item = .ok next → _ := fun next stepped =>
      ih _ (kept next stepped) (exists_iff.mp ⟨next, stepped⟩)
    simp only [List.foldlM_cons, bind_eq_ok_iff]
    simp only [List.append_assoc, List.singleton_append] at rest
    refine ⟨⟨?_, fun whole => ?_⟩, ?_⟩
    · rintro ⟨last, next, stepped, ran⟩
      exact (rest next stepped).1.mp ⟨last, ran⟩
    · obtain ⟨next, stepped⟩ := exists_iff.mpr (closed items _ (by simpa using whole))
      obtain ⟨last, ran⟩ := (rest next stepped).1.mpr whole
      exact ⟨last, next, stepped, ran⟩
    · rintro last ⟨next, stepped, ran⟩
      exact (rest next stepped).2 last ran

end FabricConfig
