/-!
# Results that are a value or an error

What is known of a result that is computed in steps. A sequence of steps gives a
value exactly if every step does; every reader, writer and decision of the registry
is taken apart with these equivalences.
-/

namespace ReporterRegistry

theorem ok_bind {ε α β : Type} (a : α) (f : α → Except ε β) : (Except.ok a >>= f) = f a := rfl

theorem bind_eq_ok_iff {ε α β : Type} {x : Except ε α} {f : α → Except ε β} {b : β} :
    (x >>= f) = .ok b ↔ ∃ a, x = .ok a ∧ f a = .ok b := by
  cases x <;> simp [bind, Except.bind]

/-- A sequence gives the error of the first step that gives one. -/
theorem bind_eq_error_iff {ε α β : Type} {x : Except ε α} {f : α → Except ε β} {error : ε} :
    (x >>= f) = .error error ↔ x = .error error ∨ ∃ a, x = .ok a ∧ f a = .error error := by
  cases x <;> simp [bind, Except.bind]

theorem map_eq_ok_iff {ε α β : Type} {f : α → β} {x : Except ε α} {b : β} :
    x.map f = .ok b ↔ ∃ a, x = .ok a ∧ f a = b := by
  cases x <;> simp [Except.map]

theorem mapError_eq_ok_iff {ε ε' α : Type} {f : ε → ε'} {x : Except ε α} {a : α} :
    x.mapError f = .ok a ↔ x = .ok a := by
  cases x with
  | ok b =>
      constructor
      · intro h
        cases h
        rfl
      · intro h
        cases h
        rfl
  | error e => constructor <;> nofun

/-- The state that a computation leaves, whether or not it succeeds. -/
def left {ω ε α : Type} (action : EStateM ε ω α) (state : ω) : ω :=
  match action state with
  | .ok _ next => next
  | .error _ next => next

/-- What a computation answers makes no difference to the state that it leaves. -/
@[simp] theorem left_map {ω ε α β : Type} (f : α → β) (action : EStateM ε ω α) (state : ω) :
    left (f <$> action) state = left action state := by
  simp only [left, Functor.map, EStateM.map]
  cases action state <;> rfl

@[simp] theorem left_bind_pure {ω ε α β : Type} (action : EStateM ε ω α) (f : α → β) (state : ω) :
    left (action >>= fun a => pure (f a)) state = left action state := by
  simp only [left, bind, EStateM.bind]
  cases action state <;> rfl

/-- A sequence of steps that change a state succeeds if every step does. -/
theorem run_bind_eq_ok_iff {ω ε α β : Type} {action : EStateM ε ω α} {rest : α → EStateM ε ω β}
    {state last : ω} {b : β} :
    (action >>= rest) state = .ok b last ↔
      ∃ a between, action state = .ok a between ∧ rest a between = .ok b last := by
  simp only [bind, EStateM.bind]
  cases action state with
  | ok a between =>
      constructor
      · intro h
        exact ⟨a, between, rfl, h⟩
      · rintro ⟨_, _, hstep, h⟩
        cases hstep
        exact h
  | error error between => constructor <;> nofun

/-- Changing the answer changes neither the success nor the state. -/
theorem run_map_eq_ok_iff {ω ε α β : Type} {f : α → β} {action : EStateM ε ω α} {state last : ω}
    {b : β} :
    (f <$> action) state = .ok b last ↔ ∃ a, action state = .ok a last ∧ f a = b := by
  simp only [Functor.map, EStateM.map]
  cases action state with
  | ok a next =>
      constructor
      · intro h
        cases h
        exact ⟨a, rfl, rfl⟩
      · rintro ⟨_, hstep, rfl⟩
        cases hstep
        rfl
  | error error next => constructor <;> nofun

/-- A refusal that does not apply lets the rest decide. -/
theorem throwIf_eq_ok_iff {ε β : Type} {c : Prop} [Decidable c] {error : ε}
    {f : Unit → Except ε β} {x : Except ε β} {b : β} :
    (if c then throw error >>= f else x) = .ok b ↔ ¬ c ∧ x = .ok b := by
  by_cases hc : c <;> simp [hc, throw, throwThe, MonadExceptOf.throw, bind, Except.bind]

/-- What is refused is refused for this reason, or by the rest. -/
theorem throwIf_eq_error_iff {ε β : Type} {c : Prop} [Decidable c] {error error' : ε}
    {f : Unit → Except ε β} {x : Except ε β} :
    (if c then throw error >>= f else x) = .error error' ↔
      (c ∧ error = error') ∨ (¬ c ∧ x = .error error') := by
  by_cases hc : c <;> simp [hc, throw, throwThe, MonadExceptOf.throw, bind, Except.bind]

end ReporterRegistry
