/-!
# Outcomes

A computation that may fail is put together from others. It is successful if all of them are, and
there is one equivalence for every way in which they are put together. A sequence of steps fails
where its first failing step does.
-/

namespace UsbDescriptors

universe u

variable {Failure State α β : Type u}

/-- A sequence of two outcomes is successful if both of them are. -/
theorem outcome_bind_iff {first : Except Failure α} {next : α → Except Failure β} {result : β} :
    first >>= next = .ok result ↔ ∃ value, first = .ok value ∧ next value = .ok result := by
  cases first with
  | error failure => simp [bind, Except.bind]
  | ok value => simp [bind, Except.bind]

theorem outcome_pure_iff {value result : α} :
    (pure value : Except Failure α) = .ok result ↔ value = result := by
  simp [pure, Except.pure]

/-- Another failure in the place of the own one does not change what is successful. -/
theorem outcome_mapError_iff {Other : Type u} {outcome : Except Failure α}
    {change : Failure → Other} {result : α} : outcome.mapError change = .ok result ↔ outcome = .ok result := by
  cases outcome with
  | ok value =>
      exact ⟨fun same => congrArg Except.ok (Except.ok.inj same),
        fun same => congrArg Except.ok (Except.ok.inj same)⟩
  | error failure => exact iff_of_false (by rintro ⟨⟩) (by rintro ⟨⟩)

theorem outcome_isOk_iff {outcome : Except Failure α} :
    outcome.isOk = true ↔ ∃ result, outcome = .ok result := by
  cases outcome with
  | ok value => simp [Except.isOk, Except.toBool]
  | error failure => simp [Except.isOk, Except.toBool]

theorem any_toOption_iff {outcome : Except Failure α} {holds : α → Bool} :
    outcome.toOption.any holds = true ↔ ∃ result, outcome = .ok result ∧ holds result = true := by
  cases outcome with
  | ok value => simp [Except.toOption]
  | error failure => simp [Except.toOption]

/-- A sequence of two steps is successful if both of them are, the second one in the state that
the first one leaves. -/
theorem step_bind_iff {first : EStateM Failure State α} {next : α → EStateM Failure State β}
    {result : β} {before after : State} :
    (first >>= next) before = .ok result after ↔
      ∃ value middle, first before = .ok value middle ∧ next value middle = .ok result after := by
  change EStateM.bind first next before = .ok result after ↔ _
  unfold EStateM.bind
  cases first before with
  | ok value middle => simp [and_assoc]
  | error failure middle => simp

/-- A sequence of two steps fails if the first one does, or if the second one does in the state
that the first one leaves. -/
theorem step_bind_error_iff {first : EStateM Failure State α} {next : α → EStateM Failure State β}
    {failure : Failure} {before after : State} :
    (first >>= next) before = .error failure after ↔
      first before = .error failure after ∨
        ∃ value middle, first before = .ok value middle ∧
          next value middle = .error failure after := by
  change EStateM.bind first next before = .error failure after ↔ _
  unfold EStateM.bind
  cases first before with
  | ok value middle => simp [and_assoc]
  | error other middle => simp

theorem step_pure_iff {value result : α} {before after : State} :
    (pure value : EStateM Failure State α) before = .ok result after ↔
      value = result ∧ before = after := by
  change EStateM.Result.ok value before = .ok result after ↔ _
  simp

end UsbDescriptors
