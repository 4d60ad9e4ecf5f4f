/-!
What an outcome of several steps was made from.
-/

namespace Stackwright

variable {ε ε' α β : Type}

@[simp] theorem ok_bind (value : α) (next : α → Except ε β) : .ok value >>= next = next value := rfl

@[simp] theorem error_bind (error : ε) (next : α → Except ε β) :
    .error error >>= next = .error error := rfl

theorem map_bind {γ : Type} (outcome : Except ε α) (next : α → Except ε β) (f : β → γ) :
    (outcome >>= next).map f = outcome >>= fun value => (next value).map f := by
  cases outcome <;> rfl

theorem bind_map {γ : Type} (outcome : Except ε α) (f : α → β) (next : β → Except ε γ) :
    outcome.map f >>= next = outcome >>= fun value => next (f value) := by
  cases outcome <;> rfl

theorem bind_eq_ok {outcome : Except ε α} {next : α → Except ε β} {result : β} :
    (outcome >>= next) = .ok result ↔ ∃ value, outcome = .ok value ∧ next value = .ok result := by
  cases outcome <;> simp [bind, Except.bind]

theorem map_eq_ok {f : α → β} {outcome : Except ε α} {result : β} :
    outcome.map f = .ok result ↔ ∃ value, outcome = .ok value ∧ f value = result := by
  cases outcome <;> simp [Except.map]

theorem map_eq_error {f : α → β} {outcome : Except ε α} {error : ε} :
    outcome.map f = .error error ↔ outcome = .error error := by
  cases outcome <;> simp [Except.map]

@[simp] theorem mapError_ok (f : ε → ε') (value : α) :
    (.ok value : Except ε α).mapError f = .ok value := rfl

@[simp] theorem mapError_error (f : ε → ε') (e : ε) :
    (.error e : Except ε α).mapError f = .error (f e) := rfl

theorem mapError_eq_ok {outcome : Except ε α} {f : ε → ε'} {result : α} :
    outcome.mapError f = .ok result ↔ outcome = .ok result := by
  cases outcome <;> simp

theorem toOption_eq_some {outcome : Except ε α} {result : α} :
    outcome.toOption = some result ↔ outcome = .ok result := by
  cases outcome with
  | error fault =>
      constructor
      · intro read
        cases read
      · intro same
        cases same
  | ok value =>
      constructor
      · intro read
        exact congrArg Except.ok (Option.some.inj read)
      · intro same
        exact congrArg some (Except.ok.inj same)

end Stackwright
