import SoleKey.KeyOperation

set_option autoImplicit false

namespace SoleKey

inductive Plan (α : Type) where
  | done (effects : List Effect) (value : α)
  | keyed (operation : KeyOperation) (finish : Except SigningError KeyResult -> List Effect × α)

namespace Plan

variable {α β : Type}

def andThen (plan : Plan α) (next : α -> List Effect × β) : Plan β :=
  match plan with
  | .done effects value =>
    let (more, result) := next value
    .done (effects ++ more) result
  | .keyed operation finish =>
    .keyed operation fun outcome =>
      let (effects, value) := finish outcome
      let (more, result) := next value
      (effects ++ more, result)

def run (plan : Plan α) (load : Load) (tpm : Tpm) : List Effect × α :=
  match plan with
  | .done effects value => (effects, value)
  | .keyed operation finish =>
    let (effects, outcome) := operation.run load tpm
    let (more, value) := finish outcome
    (effects ++ more, value)

def operation? : Plan α -> Option KeyOperation
  | .done .. => none
  | .keyed operation _ => some operation

end Plan

end SoleKey
