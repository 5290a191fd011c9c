import SoleKey.Plan
import SoleKey.Proofs.KeyOperation.Transport

set_option autoImplicit false

namespace SoleKey

def StoredKey.redacted (key : StoredKey) : StoredKey :=
  { key with sealedPart := [] }

def SignOrder.redacted (order : SignOrder) : SignOrder :=
  { order with key := order.key.redacted }

def TpmCall.redacted : TpmCall → TpmCall
  | .signed key algorithm data => .signed key.redacted algorithm data
  | call => call

def Effect.redacted : Effect → Effect
  | .tpm call => .tpm call.redacted
  | effect => effect

def Load.redacted : Load → Load
  | .loaded key => .loaded key.redacted
  | load => load

theorem StoredKey.redacted_eq_iff {first second : StoredKey} :
    first.redacted = second.redacted ↔ first.identity = second.identity := by
  simp [redacted, identity]

theorem Load.redacted_loaded {first second : StoredKey} (alike : first.redacted = second.redacted) :
    (Load.loaded first).redacted = (Load.loaded second).redacted :=
  congrArg Load.loaded alike

namespace Effect

variable {first second : List Effect}

theorem redacted_append {firstMore secondMore : List Effect}
    (begun : first.map redacted = second.map redacted)
    (more : firstMore.map redacted = secondMore.map redacted) :
    (first ++ firstMore).map redacted = (second ++ secondMore).map redacted := by
  rw [List.map_append, List.map_append, begun, more]

theorem redacted_tpm (calls : List TpmCall) :
    (calls.map Effect.tpm).map redacted = (calls.map TpmCall.redacted).map Effect.tpm := by
  rw [List.map_map, List.map_map]
  rfl

theorem logLines_redacted (effects : List Effect) :
    logLines (effects.map redacted) = logLines effects := by
  induction effects with
  | nil => rfl
  | cons effect rest ih => cases effect <;> simp_all [logLines, redacted]

theorem logLines_congr (alike : first.map redacted = second.map redacted) :
    logLines first = logLines second := by
  rw [← logLines_redacted first, alike, logLines_redacted]

end Effect

namespace Tpm

/-- Two transports open alike, and close alike if they open. -/
structure SameManner (tpm other : Tpm) : Prop where
  opens : tpm.opens = other.opens
  closes : tpm.opens = .ok () → tpm.closes = other.closes

structure SameAnswers (tpm : Tpm) (order : SignOrder) (other : Tpm) (another : SignOrder) : Prop
    extends SameManner tpm other where
  signs : tpm.opens = .ok () → tpm.signs order.key order.algorithm order.data =
    other.signs another.key another.algorithm another.data

variable {tpm other : Tpm} {order another : SignOrder}

theorem block_redacted (alike : order.redacted = another.redacted)
    (opens : tpm.opens = other.opens) :
    (tpm.block order).map TpmCall.redacted = (other.block another).map TpmCall.redacted := by
  simp only [SignOrder.redacted, SignOrder.mk.injEq] at alike
  obtain ⟨sameKey, sameAlgorithm, sameData⟩ := alike
  cases opened : other.opens <;>
    simp [block, calls, opens, opened, TpmCall.redacted, sameKey, sameAlgorithm, sameData]

theorem SameManner.warnings (same : tpm.SameManner other) :
    tpm.warnings = other.warnings := by
  cases opened : tpm.opens with
  | error problem => simp only [Tpm.warnings, ← same.opens, opened]
  | ok _ => simp only [Tpm.warnings, ← same.opens, opened, same.closes opened]

theorem SameAnswers.answer (same : tpm.SameAnswers order other another) :
    tpm.answer order = other.answer another := by
  cases opened : tpm.opens with
  | error problem => simp only [Tpm.answer, ← same.opens, opened]
  | ok _ => simp only [Tpm.answer, ← same.opens, opened, same.signs opened]

end Tpm

structure RunsAlike {α : Type} (first second : List Effect × α) : Prop where
  effects : first.1.map Effect.redacted = second.1.map Effect.redacted
  value : first.2 = second.2

namespace KeyOperation

variable {found another : Load} {tpm other : Tpm}

/-- As far as an operation asks two transports anything, they give the same answers. -/
def AnsweredAlike (operation : KeyOperation) (found : Load) (tpm : Tpm) (another : Load)
    (other : Tpm) : Prop :=
  ∀ order second, operation.order? found = some order → operation.order? another = some second →
    tpm.SameAnswers order other second

theorem order?_redacted (operation : KeyOperation) (found : Load) :
    operation.order? found.redacted = (operation.order? found).map SignOrder.redacted := by
  cases found with
  | crashed | failed => cases operation <;> rfl
  | loaded key =>
    cases operation with
    | list => rfl
    | sign requested data flags =>
      simp only [Load.redacted, order?, StoredKey.redacted]
      split <;> rfl

theorem conclude_redacted {operation : KeyOperation} (unasked : operation.order? found = none) :
    operation.conclude found.redacted other = operation.conclude found tpm := by
  cases found with
  | crashed | failed => rfl
  | loaded key =>
    cases operation with
    | list => rfl
    | sign requested data flags =>
      by_cases same : key.publicKey.encode = requested.encode
      · have foreign := foreign_of_no_order same unasked
        have sameToo : key.redacted.publicKey.encode = requested.encode := same
        rw [Load.redacted, conclude_of_foreign sameToo foreign, conclude_of_foreign same foreign]
        rfl
      · have differentToo : key.redacted.publicKey.encode ≠ requested.encode := same
        rw [Load.redacted, conclude_of_different differentToo, conclude_of_different same]

theorem orders_alike (operation : KeyOperation) (alike : found.redacted = another.redacted) :
    (operation.order? found).map SignOrder.redacted =
      (operation.order? another).map SignOrder.redacted := by
  rw [← order?_redacted, alike, order?_redacted]

theorem conclude_unasked {operation : KeyOperation} (alike : found.redacted = another.redacted)
    (unasked : operation.order? found = none) :
    operation.conclude found tpm = operation.conclude another other := by
  have unaskedToo : operation.order? another = none := by
    rw [← Option.map_eq_none_iff, ← operation.orders_alike alike, unasked]
    rfl
  calc operation.conclude found tpm
    _ = operation.conclude found.redacted tpm := (conclude_redacted unasked).symm
    _ = operation.conclude another.redacted tpm := by rw [alike]
    _ = operation.conclude another other := conclude_redacted unaskedToo

theorem asked_alike {operation : KeyOperation} {order : SignOrder}
    (alike : found.redacted = another.redacted) (asked : operation.order? found = some order) :
    ∃ second, operation.order? another = some second ∧ order.redacted = second.redacted := by
  have orders := operation.orders_alike alike
  rw [asked] at orders
  obtain ⟨second, askedToo, same⟩ := Option.map_eq_some_iff.1 orders.symm
  exact ⟨second, askedToo, same.symm⟩

theorem effects_alike (operation : KeyOperation) (alike : found.redacted = another.redacted)
    (manner : tpm.SameManner other) :
    (operation.conclude found tpm).1.map Effect.redacted =
      (operation.conclude another other).1.map Effect.redacted := by
  cases asked : operation.order? found with
  | none => rw [conclude_unasked alike asked]
  | some order =>
    obtain ⟨second, askedToo, same⟩ := asked_alike alike asked
    have sameAlgorithm : order.algorithm = second.algorithm := (SignOrder.mk.inj same).2.1
    have sameData : order.data = second.data := (SignOrder.mk.inj same).2.2
    have blocks := Tpm.block_redacted same manner.opens
    rw [conclude_of_order asked, conclude_of_order askedToo, manner.warnings, sameAlgorithm,
      sameData]
    simp only [List.map_cons, List.map_append, Effect.redacted_tpm, blocks]

theorem value_alike (operation : KeyOperation) (alike : found.redacted = another.redacted)
    (answered : operation.AnsweredAlike found tpm another other) :
    (operation.conclude found tpm).2 = (operation.conclude another other).2 := by
  cases asked : operation.order? found with
  | none => rw [conclude_unasked alike asked]
  | some order =>
    obtain ⟨second, askedToo, same⟩ := asked_alike alike asked
    rw [conclude_of_order asked, conclude_of_order askedToo,
      (answered order second asked askedToo).answer]

theorem conclude_alike (operation : KeyOperation) (alike : found.redacted = another.redacted)
    (answered : operation.AnsweredAlike found tpm another other) :
    RunsAlike (operation.conclude found tpm) (operation.conclude another other) := by
  refine ⟨?_, operation.value_alike alike answered⟩
  cases asked : operation.order? found with
  | none => rw [conclude_unasked alike asked]
  | some order =>
    obtain ⟨second, askedToo, _⟩ := asked_alike alike asked
    exact operation.effects_alike alike (answered order second asked askedToo).toSameManner

theorem run_unasked {operation : KeyOperation} (alike : found.redacted = another.redacted)
    (unasked : operation.order? found = none) :
    operation.run found tpm = operation.run another other := by
  rw [run_eq, run_eq, conclude_unasked alike unasked]

theorem run_alike (operation : KeyOperation) (alike : found.redacted = another.redacted)
    (answered : operation.AnsweredAlike found tpm another other) :
    RunsAlike (operation.run found tpm) (operation.run another other) := by
  have concluded := operation.conclude_alike alike answered
  exact ⟨congrArg (Effect.loaded :: ·) concluded.effects, concluded.value⟩

/-- The lines that tell nothing of how a transport closed. -/
def plainLines (effects : List Effect) : List LogLine :=
  (Effect.logLines effects).filter (·.level ≠ .warn)

theorem plainLines_of_order {operation : KeyOperation} {order : SignOrder}
    (asked : operation.order? found = some order) :
    plainLines (operation.conclude found tpm).1 =
      Effect.logLines [signLine order.algorithm order.data] := by
  have warns : tpm.warnings.filter (·.level ≠ .warn) = [] :=
    List.filter_eq_nil_iff.2 fun _ there => by simp [Tpm.level_of_warnings there]
  rw [plainLines, logLines_of_order asked, List.filter_append, warns, List.append_nil]
  rfl

theorem plainLines_alike (operation : KeyOperation) (alike : found.redacted = another.redacted)
    (tpm other : Tpm) :
    plainLines (operation.conclude found tpm).1 =
      plainLines (operation.conclude another other).1 := by
  cases asked : operation.order? found with
  | none => rw [conclude_unasked alike asked]
  | some order =>
    obtain ⟨second, askedToo, same⟩ := asked_alike alike asked
    have sameAlgorithm : order.algorithm = second.algorithm := (SignOrder.mk.inj same).2.1
    have sameData : order.data = second.data := (SignOrder.mk.inj same).2.2
    rw [plainLines_of_order asked, plainLines_of_order askedToo, sameAlgorithm, sameData]

theorem tpmCalls_alike (operation : KeyOperation) (alike : found.redacted = another.redacted)
    (opens : tpm.opens = other.opens) :
    (Effect.tpmCalls (operation.conclude found tpm).1).map TpmCall.redacted =
      (Effect.tpmCalls (operation.conclude another other).1).map TpmCall.redacted := by
  cases asked : operation.order? found with
  | none => rw [conclude_unasked alike asked]
  | some order =>
    obtain ⟨second, askedToo, same⟩ := asked_alike alike asked
    have blocks := Tpm.block_redacted same opens
    rw [tpmCalls_of_conclude, tpmCalls_of_conclude]
    simpa [block, asked, askedToo] using blocks

end KeyOperation

structure LoadsAlike (found : Load) (tpm : Tpm) (another : Load) (other : Tpm) : Prop where
  redacted : found.redacted = another.redacted
  answered : ∀ operation : KeyOperation, operation.AnsweredAlike found tpm another other

namespace LoadsAlike

variable {found another : Load} {tpm other : Tpm}

theorem refl (found : Load) (tpm : Tpm) : LoadsAlike found tpm found tpm where
  redacted := rfl
  answered operation order second asked askedToo := by
    obtain rfl := Option.some.inj (asked.symm.trans askedToo)
    exact ⟨⟨rfl, fun _ => rfl⟩, fun _ => rfl⟩

theorem conclude (loads : LoadsAlike found tpm another other) (operation : KeyOperation) :
    RunsAlike (operation.conclude found tpm) (operation.conclude another other) :=
  operation.conclude_alike loads.redacted (loads.answered operation)

theorem plan {α : Type} (loads : LoadsAlike found tpm another other) (plan : Plan α) :
    RunsAlike (plan.run found tpm) (plan.run another other) := by
  cases plan with
  | done effects value => exact ⟨rfl, rfl⟩
  | keyed operation finish =>
    have runs := operation.run_alike loads.redacted (loads.answered operation)
    exact
      { effects := by
          simp only [Plan.run, runs.value]
          exact Effect.redacted_append runs.effects rfl
        value := by simp only [Plan.run, runs.value] }

end LoadsAlike

end SoleKey
