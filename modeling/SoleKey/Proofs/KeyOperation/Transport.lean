import SoleKey.Proofs.KeyOperation

set_option autoImplicit false

namespace SoleKey

structure SignOrder where
  key : StoredKey
  algorithm : Algorithm
  data : Bytes

def KeyOperation.order? (operation : KeyOperation) (found : Load) : Option SignOrder :=
  match operation, found with
  | .sign requested data flags, .loaded key =>
    if key.publicKey.encode = requested.encode ∧
        key.publicKey.algorithm.sameFamily (requested.signatureAlgorithm flags) = true then
      some ⟨key, requested.signatureAlgorithm flags, data⟩
    else none
  | _, _ => none

namespace Tpm

def block (tpm : Tpm) (order : SignOrder) : List TpmCall :=
  tpm.calls order.key order.algorithm order.data

def answer (tpm : Tpm) (order : SignOrder) : Except TpmError Signature :=
  match tpm.opens with
  | .error problem => .error problem
  | .ok _ => tpm.signs order.key order.algorithm order.data

def warnings (tpm : Tpm) : List LogLine :=
  match tpm.opens, tpm.closes with
  | .ok _, .error problem => [⟨.warn, problem.message⟩]
  | _, _ => []

theorem level_of_warnings {tpm : Tpm} {line : LogLine} (there : line ∈ tpm.warnings) :
    line.level = .warn := by
  unfold warnings at there
  split at there
  · obtain rfl := List.mem_singleton.1 there
    rfl
  · cases there

end Tpm

namespace Effect

def warnings (effects : List Effect) : List LogLine :=
  (logLines effects).filter (·.level = .warn)

theorem warnings_append (first second : List Effect) :
    warnings (first ++ second) = warnings first ++ warnings second := by
  rw [warnings, logLines_append, List.filter_append]
  rfl

theorem tpmCalls_of_begun {begun whole : List Effect} (isBegun : begun <+: whole) :
    tpmCalls begun <+: tpmCalls whole :=
  isBegun.filterMap _

end Effect

theorem StoredKey.signWith_eq {order : SignOrder}
    (family : order.key.publicKey.algorithm.sameFamily order.algorithm = true) (tpm : Tpm) :
    order.key.signWith tpm order.algorithm order.data =
      ((tpm.block order).map Effect.tpm ++ tpm.warnings.map Effect.log, tpm.answer order) := by
  cases opens : tpm.opens with
  | error problem =>
    simp [signWith, family, opens, Tpm.block, Tpm.calls, Tpm.warnings, Tpm.answer]
  | ok _ =>
    cases closes : tpm.closes <;>
      simp [signWith, family, opens, closes, Tpm.block, Tpm.calls, Tpm.warnings, Tpm.answer,
        Effect.warn]

namespace KeyOperation

variable {operation : KeyOperation} {found : Load} {order : SignOrder}

theorem order?_eq_some_iff : operation.order? found = some order ↔
    ∃ requested flags, operation = .sign requested order.data flags ∧
      found = .loaded order.key ∧ order.key.publicKey.encode = requested.encode ∧
      order.algorithm = requested.signatureAlgorithm flags ∧
      order.key.publicKey.algorithm.sameFamily order.algorithm = true := by
  constructor
  · intro asked
    unfold order? at asked
    split at asked
    · rename_i requested data flags key
      simp only [Option.ite_none_right_eq_some, Option.some.injEq] at asked
      obtain ⟨⟨same, family⟩, rfl⟩ := asked
      exact ⟨requested, flags, rfl, rfl, same, rfl, family⟩
    · cases asked
  · intro ⟨requested, flags, signs, loaded, same, chosen, family⟩
    subst signs loaded
    simp [order?, same, family, ← chosen]

theorem conclude_of_order (asked : operation.order? found = some order) (tpm : Tpm) :
    operation.conclude found tpm =
      (signLine order.algorithm order.data ::
        ((tpm.block order).map Effect.tpm ++ tpm.warnings.map Effect.log),
        ((tpm.answer order).map .signature).mapError .tpm) := by
  obtain ⟨requested, flags, rfl, rfl, same, chosen, family⟩ := order?_eq_some_iff.1 asked
  have signs := StoredKey.signWith_eq family tpm
  rw [chosen] at signs ⊢
  simp [conclude, runLoaded, same, signs]

section

variable {key : StoredKey} {requested : PublicKey} {data : Bytes} {flags : SignatureFlags}

theorem conclude_of_different (different : key.publicKey.encode ≠ requested.encode) (tpm : Tpm) :
    (sign requested data flags).conclude (.loaded key) tpm = ([], .error .noMatchingKey) := by
  simp [conclude, runLoaded, different]

theorem conclude_of_foreign (same : key.publicKey.encode = requested.encode)
    (foreign : key.publicKey.algorithm.sameFamily (requested.signatureAlgorithm flags) = false)
    (tpm : Tpm) :
    (sign requested data flags).conclude (.loaded key) tpm =
      ([signLine (requested.signatureAlgorithm flags) data],
        .error (.tpm (.unsupportedAlgorithm (requested.signatureAlgorithm flags)
          key.publicKey.algorithm))) := by
  simp only [conclude, runLoaded, same, ne_eq, not_true, if_false, StoredKey.signWith, foreign,
    Bool.not_false, if_true]
  rfl

theorem foreign_of_no_order (same : key.publicKey.encode = requested.encode)
    (unasked : (sign requested data flags).order? (.loaded key) = none) :
    key.publicKey.algorithm.sameFamily (requested.signatureAlgorithm flags) = false := by
  simpa [order?, same] using unasked

end

theorem conclude_of_no_order (unasked : operation.order? found = none) (tpm : Tpm) :
    Effect.tpmCalls (operation.conclude found tpm).1 = [] ∧
      Effect.warnings (operation.conclude found tpm).1 = [] := by
  cases found with
  | crashed | failed => exact ⟨rfl, rfl⟩
  | loaded key =>
    cases operation with
    | list => exact ⟨rfl, rfl⟩
    | sign requested data flags =>
      by_cases same : key.publicKey.encode = requested.encode
      · rw [conclude_of_foreign same (foreign_of_no_order same unasked)]
        exact ⟨rfl, rfl⟩
      · rw [conclude_of_different same]
        exact ⟨rfl, rfl⟩

def block (operation : KeyOperation) (found : Load) (tpm : Tpm) : List TpmCall :=
  (operation.order? found).elim [] tpm.block

def warnings (operation : KeyOperation) (found : Load) (tpm : Tpm) : List LogLine :=
  (operation.order? found).elim [] fun _ => tpm.warnings

theorem tpmCalls_of_conclude (operation : KeyOperation) (found : Load) (tpm : Tpm) :
    Effect.tpmCalls (operation.conclude found tpm).1 = operation.block found tpm := by
  cases asked : operation.order? found with
  | none => simp [block, asked, conclude_of_no_order asked]
  | some order =>
    rw [block, asked, conclude_of_order asked]
    show Effect.tpmCalls ((tpm.block order).map Effect.tpm ++ tpm.warnings.map Effect.log) = _
    rw [Effect.tpmCalls_append, Effect.tpmCalls_map_tpm, Effect.tpmCalls_map_log, List.append_nil]
    rfl

theorem logLines_of_order (asked : operation.order? found = some order) (tpm : Tpm) :
    Effect.logLines (operation.conclude found tpm).1 =
      Effect.logLines [signLine order.algorithm order.data] ++ tpm.warnings := by
  rw [conclude_of_order asked, ← List.singleton_append, Effect.logLines_append,
    Effect.logLines_append, Effect.logLines_map_tpm, Effect.logLines_map_log, List.nil_append]

theorem warnings_of_conclude (operation : KeyOperation) (found : Load) (tpm : Tpm) :
    Effect.warnings (operation.conclude found tpm).1 = operation.warnings found tpm := by
  cases asked : operation.order? found with
  | none => simp [warnings, asked, conclude_of_no_order asked]
  | some order =>
    have warns : tpm.warnings.filter (·.level = .warn) = tpm.warnings :=
      List.filter_eq_self.2 fun _ there => decide_eq_true (Tpm.level_of_warnings there)
    rw [warnings, asked, Effect.warnings, logLines_of_order asked, List.filter_append, warns]
    rfl

end KeyOperation

end SoleKey
