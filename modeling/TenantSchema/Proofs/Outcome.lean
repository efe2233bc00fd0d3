namespace TenantSchema

/-!
# Outcomes

What can fail comes to an error or a value.  Two outcomes are alike if they are one error, or
values that are related.
-/

/-- Two outcomes that are one error, or values that are related. -/
inductive SameOutcome
    {Error Value : Type}
    (related : Value → Value → Prop) :
    Except Error Value → Except Error Value → Prop
  | error (error : Error) :
      SameOutcome related (.error error) (.error error)
  | ok {first second : Value} (values : related first second) :
      SameOutcome related (.ok first) (.ok second)

theorem SameOutcome.error_or_ok
    {Error Value : Type}
    {related : Value → Value → Prop}
    {first second : Except Error Value}
    (same : SameOutcome related first second) :
    (∃ error, first = .error error ∧ second = .error error) ∨
      ∃ firstValue secondValue,
        first = .ok firstValue ∧ second = .ok secondValue ∧ related firstValue secondValue := by
  cases same with
  | error error =>
      exact .inl ⟨error, rfl, rfl⟩
  | ok values =>
      exact .inr ⟨_, _, rfl, rfl, values⟩

theorem SameOutcome.mapError
    {Error Other Value : Type}
    {related : Value → Value → Prop}
    {first second : Except Error Value}
    (same : SameOutcome related first second)
    (convert : Error → Other) :
    SameOutcome related (first.mapError convert) (second.mapError convert) := by
  cases same with
  | error error =>
      exact .error (convert error)
  | ok values =>
      exact .ok values

theorem SameOutcome.bind
    {Error Made Value : Type}
    {related : Value → Value → Prop}
    {first second : Made → Except Error Value}
    (made : Except Error Made)
    (alike : ∀ value, SameOutcome related (first value) (second value)) :
    SameOutcome related (made.bind first) (made.bind second) := by
  cases made with
  | error error =>
      exact .error error
  | ok value =>
      exact alike value

/-- What comes of two steps comes of the first one and then of the second. -/
theorem exists_of_bind_eq_ok
    {Error Made Value : Type}
    {outcome : Except Error Made}
    {next : Made → Except Error Value}
    {value : Value}
    (comes : outcome.bind next = .ok value) :
    ∃ made, outcome = .ok made ∧ next made = .ok value := by
  cases outcome with
  | error error =>
      cases comes
  | ok made =>
      exact ⟨made, rfl, comes⟩

/-- What is kept of an outcome is what it came to. -/
theorem eq_ok_of_toOption
    {Error Value : Type}
    {outcome : Except Error Value}
    {value : Value}
    (kept : outcome.toOption = some value) :
    outcome = .ok value := by
  cases outcome with
  | error error =>
      cases kept
  | ok other =>
      exact congrArg Except.ok (Option.some.inj kept)

end TenantSchema
