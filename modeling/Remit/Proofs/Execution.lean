import Mathlib.Data.List.Forall2

/-!
Running computations that may fail and whose state survives the failure. Readers of streams and
authoring calls are both of this kind.
-/

namespace Remit

section

variable {ε ε' state α β : Type}

@[simp] theorem mapError_ok (change : ε → ε') (value : α) :
    (Except.ok value).mapError change = .ok value := rfl

@[simp] theorem mapError_error (change : ε → ε') (error : ε) :
    (Except.error error : Except ε α).mapError change = .error (change error) := rfl

theorem mapError_eq_ok {change : ε → ε'} {result : Except ε α} {value : α} :
    result.mapError change = .ok value ↔ result = .ok value := by
  cases result <;> simp

theorem bind_eq_ok {first : Except ε α} {next : α → Except ε β} {result : β} :
    first >>= next = .ok result ↔ ∃ value, first = .ok value ∧ next value = .ok result := by
  cases first <;> simp [bind, Except.bind]

theorem mapM_eq_ok_iff {step : α → Except ε β} {values : List α} {results : List β} :
    values.mapM step = .ok results ↔
      List.Forall₂ (fun value result => step value = .ok result) values results := by
  induction values generalizing results with
  | nil => cases results <;> simp [pure, Except.pure]
  | cons value rest induction =>
      rw [List.mapM_cons, bind_eq_ok]
      cases results with
      | nil => simp [bind_eq_ok, pure, Except.pure]
      | cons result results =>
          simp [bind_eq_ok, induction, pure, Except.pure]

theorem eq_ok_of_toOption {result : Except ε α} {value : α}
    (same : result.toOption = some value) : result = .ok value := by
  cases result with
  | error _ => cases same
  | ok found => exact congrArg Except.ok (Option.some.inj same)

def execute (computation : ExceptT ε (StateM state) α) (before : state) :
    Except ε α × state :=
  computation.run before

@[simp] theorem execute_pure (value : α) (before : state) :
    execute (pure value : ExceptT ε (StateM state) α) before = (.ok value, before) := rfl

@[simp] theorem execute_throw (error : ε) (before : state) :
    execute (throw error : ExceptT ε (StateM state) α) before = (.error error, before) := rfl

@[simp] theorem execute_get (before : state) :
    execute (get : ExceptT ε (StateM state) state) before = (.ok before, before) := rfl

@[simp] theorem execute_set (before after : state) :
    execute (set after : ExceptT ε (StateM state) PUnit) before = (.ok ⟨⟩, after) := rfl

@[simp] theorem execute_modify (change : state → state) (before : state) :
    execute (modify change : ExceptT ε (StateM state) PUnit) before =
      (.ok ⟨⟩, change before) := rfl

/-- What follows runs from where the first part ended, unless that failed. -/
theorem execute_bind (first : ExceptT ε (StateM state) α)
    (next : α → ExceptT ε (StateM state) β) (before : state) :
    execute (first >>= next) before =
      match execute first before with
      | (.ok value, middle) => execute (next value) middle
      | (.error error, middle) => (.error error, middle) := by
  change ExceptT.bindCont next (first.run before).1 (first.run before).2 = _
  unfold execute
  rcases first.run before with ⟨_ | _, _⟩ <;> rfl

theorem execute_bind_ok {first : ExceptT ε (StateM state) α}
    {before middle : state} {value : α}
    (firstRun : execute first before = (.ok value, middle))
    (next : α → ExceptT ε (StateM state) β) :
    execute (first >>= next) before = execute (next value) middle := by
  rw [execute_bind, firstRun]

theorem execute_bind_error {first : ExceptT ε (StateM state) α}
    {before middle : state} {error : ε}
    (firstRun : execute first before = (.error error, middle))
    (next : α → ExceptT ε (StateM state) β) :
    execute (first >>= next) before = (.error error, middle) := by
  rw [execute_bind, firstRun]

theorem execute_bind_eq_ok {first : ExceptT ε (StateM state) α}
    {next : α → ExceptT ε (StateM state) β} {before after : state} {result : β}
    (run : execute (first >>= next) before = (.ok result, after)) :
    ∃ value middle, execute first before = (.ok value, middle) ∧
      execute (next value) middle = (.ok result, after) := by
  rw [execute_bind] at run
  rcases firstRun : execute first before with ⟨error | value, middle⟩
  · rw [firstRun] at run
    cases run
  · rw [firstRun] at run
    exact ⟨value, middle, rfl, run⟩

theorem execute_bind_eq_error {first : ExceptT ε (StateM state) α}
    {next : α → ExceptT ε (StateM state) β} {before after : state} {error : ε}
    (run : execute (first >>= next) before = (.error error, after)) :
    execute first before = (.error error, after) ∨
      ∃ value middle, execute first before = (.ok value, middle) ∧
        execute (next value) middle = (.error error, after) := by
  rw [execute_bind] at run
  rcases firstRun : execute first before with ⟨failure | value, middle⟩
  · rw [firstRun] at run
    cases run
    exact .inl rfl
  · rw [firstRun] at run
    exact .inr ⟨value, middle, rfl, run⟩

theorem execute_map (change : α → β) (first : ExceptT ε (StateM state) α)
    (before : state) :
    execute (change <$> first) before =
      ((execute first before).1.map change, (execute first before).2) := by
  rw [map_eq_pure_bind, execute_bind]
  rcases execute first before with ⟨_ | _, _⟩ <;> rfl

end

end Remit
