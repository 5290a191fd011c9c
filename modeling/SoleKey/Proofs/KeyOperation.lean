import SoleKey.KeyOperation
import SoleKey.Proofs.Effect
import SoleKey.Proofs.Except

set_option autoImplicit false

namespace SoleKey

def Tpm.calls (tpm : Tpm) (key : StoredKey) (algorithm : Algorithm) (data : Bytes) :
    List TpmCall :=
  match tpm.opens with
  | .error _ => [.opened]
  | .ok _ => [.opened, .signed key algorithm data, .closed]

def Tpm.made? (tpm : Tpm) (key : StoredKey) (algorithm : Algorithm) (data : Bytes) :
    Option Signature :=
  match tpm.opens, tpm.signs key algorithm data with
  | .ok _, .ok made => some made
  | _, _ => none

namespace StoredKey

theorem loads_signWith (key : StoredKey) (tpm : Tpm) (algorithm : Algorithm) (data : Bytes) :
    Effect.loads (key.signWith tpm algorithm data).1 = 0 := by
  unfold signWith
  split
  · rfl
  · cases tpm.opens with
    | error problem => rfl
    | ok _ => cases tpm.closes <;> rfl

theorem signed_of_signWith {key signer : StoredKey} {tpm : Tpm} {algorithm chosen : Algorithm}
    {data signed : Bytes}
    (asked : .tpm (.signed signer chosen signed) ∈ (key.signWith tpm algorithm data).1) :
    signer = key ∧ chosen = algorithm ∧ signed = data ∧
      key.publicKey.algorithm.sameFamily algorithm = true := by
  unfold signWith at asked
  split at asked
  · simp at asked
  · rename_i family
    have same : key.publicKey.algorithm.sameFamily algorithm = true := by simpa using family
    cases opens : tpm.opens with
    | error problem => simp [opens] at asked
    | ok _ =>
      cases closes : tpm.closes <;>
        simp [opens, closes, Effect.warn] at asked <;>
        exact ⟨asked.1, asked.2.1, asked.2.2, same⟩

theorem tpmCalls_signWith {key : StoredKey} {algorithm : Algorithm}
    (family : key.publicKey.algorithm.sameFamily algorithm = true) (tpm : Tpm) (data : Bytes) :
    Effect.tpmCalls (key.signWith tpm algorithm data).1 = tpm.calls key algorithm data := by
  cases opens : tpm.opens with
  | error problem => simp [signWith, family, opens, Tpm.calls, Effect.tpmCalls]
  | ok _ =>
    cases closes : tpm.closes <;>
      simp [signWith, family, opens, closes, Tpm.calls, Effect.tpmCalls, Effect.warn]

theorem made_signWith {key : StoredKey} {algorithm : Algorithm}
    (family : key.publicKey.algorithm.sameFamily algorithm = true) (tpm : Tpm) (data : Bytes) :
    (key.signWith tpm algorithm data).2.toOption = tpm.made? key algorithm data := by
  cases opens : tpm.opens with
  | error problem => simp [signWith, family, opens, Tpm.made?, Except.toOption]
  | ok _ =>
    cases signs : tpm.signs key algorithm data <;>
      simp [signWith, family, opens, signs, Tpm.made?, Except.toOption]

end StoredKey

namespace KeyOperation

theorem run_eq (operation : KeyOperation) (found : Load) (tpm : Tpm) :
    operation.run found tpm =
      (.loaded :: (operation.conclude found tpm).1, (operation.conclude found tpm).2) := rfl

theorem mapError_tpm_ne_worker {α : Type} (result : Except TpmError α) :
    result.mapError SigningError.tpm ≠ .error .worker := by
  cases result <;> exact nofun

theorem conclude_worker (operation : KeyOperation) (found : Load) (tpm : Tpm) :
    (operation.conclude found tpm).2 = .error .worker ↔ found = .crashed := by
  cases found with
  | crashed => simp [conclude]
  | failed problem => simp [conclude]
  | loaded key =>
    cases operation with
    | list => simp [conclude, runLoaded]
    | sign requested data flags =>
      by_cases same : key.publicKey.encode = requested.encode
      · simp [conclude, runLoaded, same, mapError_tpm_ne_worker]
      · simp [conclude, runLoaded, same]

theorem loads_conclude (operation : KeyOperation) (found : Load) (tpm : Tpm) :
    Effect.loads (operation.conclude found tpm).1 = 0 := by
  cases found with
  | crashed => rfl
  | failed problem => rfl
  | loaded key =>
    cases operation with
    | list => rfl
    | sign requested data flags =>
      by_cases same : key.publicKey.encode = requested.encode
      · have noLoad := key.loads_signWith tpm (requested.signatureAlgorithm flags) data
        simpa [conclude, runLoaded, same, Effect.loads, signLine, Effect.debug] using noLoad
      · simp [conclude, runLoaded, same, Effect.loads]

theorem signed_of_conclude {operation : KeyOperation} {found : Load} {tpm : Tpm} {key : StoredKey}
    {algorithm : Algorithm} {data : Bytes}
    (asked : .tpm (.signed key algorithm data) ∈ (operation.conclude found tpm).1) :
    found = .loaded key ∧ ∃ requested flags, operation = .sign requested data flags ∧
      key.publicKey.encode = requested.encode ∧
      algorithm = requested.signatureAlgorithm flags ∧
      key.publicKey.algorithm.sameFamily algorithm = true := by
  cases found with
  | crashed => simp [conclude] at asked
  | failed problem => simp [conclude] at asked
  | loaded stored =>
    cases operation with
    | list => simp [conclude, runLoaded] at asked
    | sign requested message flags =>
      by_cases same : stored.publicKey.encode = requested.encode
      · simp only [conclude, runLoaded, same, ne_eq, not_true, if_false, List.mem_cons, signLine,
          Effect.debug, reduceCtorEq, false_or] at asked
        obtain ⟨rfl, rfl, rfl, family⟩ := StoredKey.signed_of_signWith asked
        exact ⟨rfl, requested, flags, rfl, same, rfl, family⟩
      · simp [conclude, runLoaded, same] at asked

theorem conclude_mismatch {found : Load} {requested : PublicKey}
    (different : ∀ key, found = .loaded key → key.publicKey.encode ≠ requested.encode)
    (data : Bytes) (flags : SignatureFlags) (tpm : Tpm) :
    Effect.tpmCalls ((sign requested data flags).conclude found tpm).1 = [] ∧
      ((sign requested data flags).conclude found tpm).2.toOption = none := by
  cases found with
  | crashed => exact ⟨rfl, rfl⟩
  | failed problem => exact ⟨rfl, rfl⟩
  | loaded key =>
    simp [conclude, runLoaded, different key rfl, Effect.tpmCalls, Except.toOption]

theorem conclude_match {key : StoredKey} {requested : PublicKey} {flags : SignatureFlags}
    (same : key.publicKey.encode = requested.encode)
    (family : key.publicKey.algorithm.sameFamily (requested.signatureAlgorithm flags) = true)
    (data : Bytes) (tpm : Tpm) :
    Effect.tpmCalls ((sign requested data flags).conclude (.loaded key) tpm).1 =
        tpm.calls key (requested.signatureAlgorithm flags) data ∧
      ((sign requested data flags).conclude (.loaded key) tpm).2.toOption =
        (tpm.made? key (requested.signatureAlgorithm flags) data).map .signature := by
  have calls := StoredKey.tpmCalls_signWith family tpm data
  have made := StoredKey.made_signWith family tpm data
  constructor
  · simpa [conclude, runLoaded, same, signLine, Effect.debug, Effect.tpmCalls] using calls
  · simp only [conclude, runLoaded, same, ne_eq, not_true, if_false, toOption_mapError]
    rw [← made]
    cases (key.signWith tpm (requested.signatureAlgorithm flags) data).2 <;> rfl

end KeyOperation

end SoleKey
