/-! Steps that may fail, and parts of a process that can change a state even then. -/

namespace FlightQuery

namespace Outcome

variable {ε α β : Type}

/-- A value is given to the next step. -/
@[simp] theorem ok_bind (value : α) (next : α → Except ε β) :
    (Except.ok value >>= next) = next value := rfl

/-- An error leaves the next step out. -/
@[simp] theorem error_bind (error : ε) (next : α → Except ε β) :
    (Except.error error >>= next) = .error error := rfl

/-- A value that is returned is no error. -/
@[simp] theorem pure_eq_ok (value : α) : (pure value : Except ε α) = .ok value := rfl

/-- A sequence gives a value exactly when both of its steps do. -/
theorem bind_eq_ok_iff {first : Except ε α} {next : α → Except ε β} {result : β} :
    (first >>= next) = .ok result ↔ ∃ value, first = .ok value ∧ next value = .ok result := by
  cases first with
  | error error => simp
  | ok value => simp

/-- There is a value exactly when there is no error. -/
theorem toOption_eq_some_iff {outcome : Except ε α} {value : α} :
    outcome.toOption = some value ↔ outcome = .ok value := by
  cases outcome <;> simp [Except.toOption]

/-- What is made of a value is missing only where the value is. -/
theorem eq_error_of_map {outcome : Except ε α} {change : α → β} {error : ε}
    (failed : (do return change (← outcome)) = Except.error error) : outcome = .error error := by
  cases outcome with
  | error other => exact congrArg Except.error (Except.error.inj failed)
  | ok value => exact nomatch failed

end Outcome

namespace Stateful

variable {σ ε α β : Type}

/-- The outcome of a part, and the state that it leaves even if it fails. -/
def applyTo (state : σ) (part : ExceptT ε (StateM σ) α) : Except ε α × σ := (part.run.run state).run

/-- A value that is returned leaves the state as it is. -/
@[simp] theorem applyTo_pure (state : σ) (value : α) :
    applyTo state (pure value : ExceptT ε (StateM σ) α) = (.ok value, state) := rfl

/-- An error leaves the state as it is. -/
@[simp] theorem applyTo_throw (state : σ) (error : ε) :
    applyTo state (throw error : ExceptT ε (StateM σ) α) = (.error error, state) := rfl

/-- A part that fails leaves the next one out, but what it has changed stays. -/
@[simp] theorem applyTo_bind (state : σ) (part : ExceptT ε (StateM σ) α)
    (next : α → ExceptT ε (StateM σ) β) :
    applyTo state (part >>= next) = match applyTo state part with
      | (.ok value, state') => applyTo state' (next value)
      | (.error error, state') => (.error error, state') := by
  simp only [applyTo, ExceptT.run_bind, StateT.run_bind]
  rcases part.run.run state with ⟨_ | _, _⟩ <;> rfl

/-- Two parts succeed exactly when the second one does behind the first one. -/
theorem applyTo_bind_eq_ok_iff {state after : σ} {part : ExceptT ε (StateM σ) α}
    {next : α → ExceptT ε (StateM σ) β} {result : β} :
    applyTo state (part >>= next) = (.ok result, after) ↔
      ∃ value middle, applyTo state part = (.ok value, middle) ∧
        applyTo middle (next value) = (.ok result, after) := by
  rw [applyTo_bind]
  -- Either the first part fails and with it both, or the second one goes on from its result.
  rcases applyTo state part with ⟨error | value, middle⟩
  · simp
  · constructor
    · exact fun succeeded => ⟨value, middle, rfl, succeeded⟩
    · rintro ⟨_, _, ⟨⟩, succeeded⟩
      exact succeeded

/-- What a part tells can be told in another way. -/
@[simp] theorem applyTo_map (state : σ) (tell : α → β) (part : ExceptT ε (StateM σ) α) :
    applyTo state (tell <$> part) = match applyTo state part with
      | (.ok value, state') => (.ok (tell value), state')
      | (.error error, state') => (.error error, state') := by
  rw [map_eq_pure_bind, applyTo_bind]
  rfl

/-- What a part tells does not matter to the state that it leaves. -/
theorem snd_applyTo_bind_pure (state : σ) (part : ExceptT ε (StateM σ) α) (tell : α → β) :
    (applyTo state (part >>= fun value => pure (tell value))).2 = (applyTo state part).2 := by
  rw [applyTo_bind]
  rcases applyTo state part with ⟨_ | _, _⟩ <;> rfl

/-- The state can be looked at. -/
@[simp] theorem applyTo_get (state : σ) :
    applyTo state (get : ExceptT ε (StateM σ) σ) = (.ok state, state) := rfl

/-- A change of the state does not fail. -/
@[simp] theorem applyTo_modify (state : σ) (change : σ → σ) :
    applyTo state (modify change : ExceptT ε (StateM σ) PUnit) = (.ok (), change state) := rfl

end Stateful
end FlightQuery
