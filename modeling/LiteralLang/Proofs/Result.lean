import LiteralLang.Logged

/-!
# Results

Chains of steps that may fail, and what a logged computation comes to, its events aside: chained
steps have the chained results.
-/

namespace LiteralLang

variable {ε δ α β : Type}

namespace Result

@[simp] theorem ok_bind (value : α) (next : α → Except ε β) :
    (Except.ok value >>= next) = next value := rfl

@[simp] theorem error_bind (fault : ε) (next : α → Except ε β) :
    (Except.error fault >>= next) = .error fault := rfl

@[simp] theorem mapError_ok (view : ε → δ) (value : α) :
    (Except.ok value).mapError view = .ok value := rfl

@[simp] theorem mapError_error (view : ε → δ) (fault : ε) :
    (Except.error fault : Except ε α).mapError view = .error (view fault) := rfl

/-- A chain succeeds exactly if both of its steps do. -/
theorem bind_eq_ok_iff {first : Except ε α} {next : α → Except ε β} {value : β} :
    first >>= next = .ok value ↔ ∃ between, first = .ok between ∧ next between = .ok value := by
  cases first with
  | error fault => simp
  | ok between => simp

/-- A chain fails exactly if one of its steps does. -/
theorem bind_eq_error_iff {first : Except ε α} {next : α → Except ε β} {fault : ε} :
    first >>= next = .error fault ↔
      first = .error fault ∨ ∃ between, first = .ok between ∧ next between = .error fault := by
  cases first with
  | error first => simp
  | ok between => simp

/-- What does not succeed fails. -/
theorem exists_error_iff {result : Except ε α} :
    (∃ fault, result = .error fault) ↔ ¬ ∃ value, result = .ok value := by
  cases result with
  | error fault => simp
  | ok value => simp

end Result

namespace Logged

@[simp] theorem result_bind (first : Logged ε α) (next : α → Logged ε β) :
    (first >>= next).result = first.result >>= fun value => (next value).result := by
  change (andThen first next).result = _
  rw [andThen]
  cases first.result with
  | error fault => rfl
  | ok value => rfl

theorem bind_of_ok (events : List LogEvent) (value : α) (next : α → Logged ε β) :
    ((⟨events, .ok value⟩ : Logged ε α) >>= next) =
      ⟨events ++ (next value).events, (next value).result⟩ := rfl

theorem bind_of_error (events : List LogEvent) (fault : ε) (next : α → Logged ε β) :
    ((⟨events, .error fault⟩ : Logged ε α) >>= next) = ⟨events, .error fault⟩ := rfl

@[simp] theorem result_pure (value : α) : (pure value : Logged ε α).result = .ok value := rfl

@[simp] theorem result_report (event : LogEvent) : (report event : Logged ε Unit).result = .ok () :=
  rfl

@[simp] theorem result_mapFault (view : ε → δ) (logged : Logged ε α) :
    (logged.mapFault view).result = logged.result.mapError view := rfl

@[simp] theorem result_silent (result : Except ε α) : (silent result).result = result := rfl

end Logged

end LiteralLang
