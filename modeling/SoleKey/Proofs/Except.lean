set_option autoImplicit false

namespace SoleKey

variable {ε δ α β : Type}

theorem bind_eq_ok_iff {first : Except ε α} {next : α → Except ε β} {result : β} :
    first >>= next = .ok result ↔ ∃ value, first = .ok value ∧ next value = .ok result := by
  cases first <;> simp [Bind.bind, Except.bind]

theorem bind_eq_error_iff {first : Except ε α} {next : α → Except ε β} {problem : ε} :
    first >>= next = .error problem ↔
      first = .error problem ∨ ∃ value, first = .ok value ∧ next value = .error problem := by
  cases first <;> simp [Bind.bind, Except.bind]

theorem mapError_eq_ok_iff {result : Except ε α} {change : ε → δ} {value : α} :
    result.mapError change = .ok value ↔ result = .ok value := by
  cases result with
  | error problem => exact ⟨nofun, nofun⟩
  | ok found =>
    constructor <;> intro same <;> obtain rfl := Except.ok.inj same <;> rfl

theorem guard_eq_ok_iff {result : Except ε α} {holds : Prop} [Decidable holds] {problem : ε}
    {value : α} :
    (if holds then result else throw problem) = .ok value ↔ holds ∧ result = .ok value := by
  by_cases held : holds <;> simp [held, throw, throwThe, MonadExceptOf.throw]

theorem toOption_eq_some_iff {result : Except ε α} {value : α} :
    result.toOption = some value ↔ result = .ok value := by
  cases result <;> simp [Except.toOption]

theorem toOption_mapError (result : Except ε α) (change : ε → δ) :
    (result.mapError change).toOption = result.toOption := by
  cases result <;> rfl

end SoleKey
