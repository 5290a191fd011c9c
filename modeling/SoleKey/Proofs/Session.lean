import SoleKey.Proofs.KeyOperation
import SoleKey.Proofs.Request
import SoleKey.Proofs.StoredKey
import SoleKey.KeySource
import SoleKey.Session

set_option autoImplicit false

namespace SoleKey

open Decoder

def KeyFile.Holds (found : KeyFile) (key : StoredKey) : Prop :=
  ∃ content, found = .file content ∧ StoredKey.decode content = .ok key

theorem KeySource.load_eq_loaded_iff {path : String} {found : KeyFile} {key : StoredKey} :
    (KeySource.file path).load found = .loaded key ↔ found.Holds key := by
  cases found with
  | missing => simp [KeySource.load, StoredKey.load, KeyFile.read, KeyFile.Holds]
  | directory => simp [KeySource.load, StoredKey.load, KeyFile.read, KeyFile.Holds]
  | file content =>
    cases decoded : StoredKey.decode content <;>
      simp [KeySource.load, StoredKey.load, KeyFile.read, KeyFile.Holds, decoded]

theorem KeyFile.Holds.wellFormed {found : KeyFile} {key : StoredKey} (holds : found.Holds key) :
    key.publicKey.WellFormed := by
  obtain ⟨content, _, decoded⟩ := holds
  exact StoredKey.wellFormed_of_decode decoded

theorem PublicKey.sameFamily_signatureAlgorithm (key : PublicKey) (flags : SignatureFlags) :
    key.algorithm.sameFamily (key.signatureAlgorithm flags) = true := by
  cases key with
  | rsa e n =>
    simp only [signatureAlgorithm, algorithm]
    split
    · rfl
    · split <;> rfl
  | dsa | ecdsa | ed25519 | skEcdsa | skEd25519 | other =>
    simp [signatureAlgorithm, algorithm, Algorithm.sameFamily]

namespace Session

variable {body : Bytes}

theorem tpmCalls_conclude (answered : Except SigningError Answer) :
    Effect.tpmCalls (conclude answered).1 = [] := by
  cases answered <;> rfl

theorem reply_conclude (answered : Except SigningError Answer) :
    (conclude answered).2 = (answered.toOption.map Answer.reply).getD .failure := by
  cases answered <;> rfl

theorem run_of_undecodable {agent : Agent} {problem : RequestError}
    (failed : Request.decode body = .error problem) (load : Load) (tpm : Tpm) :
    (ofAgent agent body).run load tpm =
      ([.debug ("Malformed agent request: " ++ problem.message)], .failure) := by
  simp [ofAgent, ofRequests, failed, Plan.run]

theorem run_of_sign {key : PublicKey} {data : Bytes} {flags : SignatureFlags}
    (found : Request.decode body = .ok (.sign key data flags)) (load : Load) (tpm : Tpm) :
    let concluded := (KeyOperation.sign key data flags).conclude load tpm
    Effect.tpmCalls ((ofAgent Agent.overStoredKey body).run load tpm).1 =
        Effect.tpmCalls concluded.1 ∧
      ((ofAgent Agent.overStoredKey body).run load tpm).2 =
        (concluded.2.toOption.map fun result => result.answer.reply).getD .failure := by
  intro concluded
  have run : (ofAgent Agent.overStoredKey body).run load tpm =
      (.loaded :: concluded.1 ++ (conclude (concluded.2.map KeyResult.answer)).1,
        (conclude (concluded.2.map KeyResult.answer)).2) := by
    simp [ofAgent, ofRequests, found, Request.call?, Agent.overStoredKey, Agent.keyed,
      Plan.andThen, Plan.run, KeyOperation.run, concluded]
  rw [run, reply_conclude]
  constructor
  · rw [Effect.tpmCalls_append, tpmCalls_conclude, List.append_nil]
    rfl
  · cases concluded.2 <;> rfl

theorem run_of_other {request : Request} (found : Request.decode body = .ok request)
    (other : ¬request.IsSign) (load : Load) (tpm : Tpm) :
    Effect.tpmCalls ((ofAgent Agent.overStoredKey body).run load tpm).1 = [] ∧
      ∀ made, ((ofAgent Agent.overStoredKey body).run load tpm).2 ≠ .signature made := by
  cases request with
  | sign => exact absurd trivial other
  | list =>
    cases load <;>
      simp [ofAgent, ofRequests, found, Request.call?, Agent.overStoredKey, Agent.keyed,
        Plan.andThen, Plan.run, KeyOperation.run, KeyOperation.conclude, KeyOperation.runLoaded,
        Except.map, conclude, KeyResult.answer, Answer.reply, Effect.tpmCalls, Effect.debug]
  | add | addConstrained | remove | removeAll | smartcard | lock | unlock | extension =>
    simp [ofAgent, ofRequests, found, Request.call?, Agent.overStoredKey, Agent.refuse,
      Plan.andThen, Plan.run, conclude, Answer.reply, Effect.tpmCalls, Effect.debug]

theorem run_of_mismatch {key : PublicKey} {data : Bytes} {flags : SignatureFlags} {load : Load}
    (found : Request.decode body = .ok (.sign key data flags))
    (different : ∀ stored, load = .loaded stored → stored.publicKey.encode ≠ key.encode)
    (tpm : Tpm) :
    Effect.tpmCalls ((ofAgent Agent.overStoredKey body).run load tpm).1 = [] ∧
      ((ofAgent Agent.overStoredKey body).run load tpm).2 = .failure := by
  obtain ⟨calls, reply⟩ := run_of_sign found load tpm
  obtain ⟨noCalls, nothing⟩ := KeyOperation.conclude_mismatch different data flags tpm
  exact ⟨calls.trans noCalls, by rw [reply, nothing]; rfl⟩

theorem run_of_match {stored : StoredKey} {data : Bytes} {flags : SignatureFlags}
    (found : Request.decode body = .ok (.sign stored.publicKey data flags)) (tpm : Tpm) :
    let algorithm := stored.publicKey.signatureAlgorithm flags
    Effect.tpmCalls ((ofAgent Agent.overStoredKey body).run (.loaded stored) tpm).1 =
        tpm.calls stored algorithm data ∧
      ((ofAgent Agent.overStoredKey body).run (.loaded stored) tpm).2 =
        ((tpm.made? stored algorithm data).map Reply.signature).getD .failure := by
  intro algorithm
  have family := stored.publicKey.sameFamily_signatureAlgorithm flags
  obtain ⟨calls, reply⟩ := run_of_sign found (.loaded stored) tpm
  obtain ⟨asked, made⟩ := KeyOperation.conclude_match rfl family data tpm
  refine ⟨calls.trans asked, ?_⟩
  rw [reply, made, Option.map_map]
  rfl

inductive Outcome (found : KeyFile) (tpm : Tpm) (body : Bytes) :
    List TpmCall → Reply → Prop where
  | carriedOut (stored : StoredKey) (data : Bytes) (flags : SignatureFlags)
      (holds : found.Holds stored)
      (asks : Request.SignBody stored.publicKey data flags body) :
      Outcome found tpm body (tpm.calls stored (stored.publicKey.signatureAlgorithm flags) data)
        (((tpm.made? stored (stored.publicKey.signatureAlgorithm flags) data).map
          Reply.signature).getD .failure)
  | turnedDown (reply : Reply) (unsigned : ∀ made, reply ≠ .signature made)
      (failed : body.head? = some 13 → reply = .failure) : Outcome found tpm body [] reply

theorem outcome (path : String) (found : KeyFile) (tpm : Tpm) (body : Bytes) :
    Outcome found tpm body
      (Effect.tpmCalls ((ofAgent Agent.overStoredKey body).run
        ((KeySource.file path).load found) tpm).1)
      ((ofAgent Agent.overStoredKey body).run ((KeySource.file path).load found) tpm).2 := by
  cases decoded : Request.decode body with
  | error problem =>
    rw [run_of_undecodable decoded]
    exact .turnedDown _ (fun made => by simp) fun _ => rfl
  | ok request =>
    by_cases sign : request.IsSign
    · obtain ⟨key, data, flags, rfl⟩ := sign.eq_sign
      by_cases carried : ∃ stored, (KeySource.file path).load found = .loaded stored ∧
          stored.publicKey.encode = key.encode
      · obtain ⟨stored, loaded, same⟩ := carried
        have holds := KeySource.load_eq_loaded_iff.1 loaded
        obtain ⟨wellFormed, asks⟩ := Request.decode_eq_sign_iff.1 decoded
        -- Equal blobs come from equal keys, so the request names the stored key itself.
        obtain rfl := PublicKey.encode_inj holds.wellFormed wellFormed same
        obtain ⟨calls, reply⟩ := run_of_match decoded tpm
        rw [loaded, calls, reply]
        exact .carriedOut stored data flags holds asks
      · have different (stored : StoredKey)
            (loaded : (KeySource.file path).load found = .loaded stored) :
            stored.publicKey.encode ≠ key.encode := fun same => carried ⟨stored, loaded, same⟩
        obtain ⟨calls, reply⟩ := run_of_mismatch decoded different tpm
        rw [calls, reply]
        exact .turnedDown _ (fun made => by simp) fun _ => rfl
    · obtain ⟨calls, unsigned⟩ := run_of_other decoded sign ((KeySource.file path).load found) tpm
      rw [calls]
      exact .turnedDown _ unsigned fun command =>
        absurd (Request.isSign_of_head decoded command) sign

theorem run_of_asked {path : String} {found : KeyFile} {stored : StoredKey} {data : Bytes}
    {flags : SignatureFlags} (holds : found.Holds stored)
    (asks : Request.SignBody stored.publicKey data flags body) (tpm : Tpm) :
    let answered := (ofAgent Agent.overStoredKey body).run ((KeySource.file path).load found) tpm
    let algorithm := stored.publicKey.signatureAlgorithm flags
    Effect.tpmCalls answered.1 = tpm.calls stored algorithm data ∧
      answered.2 = ((tpm.made? stored algorithm data).map Reply.signature).getD .failure := by
  have decoded := Request.decode_eq_sign_iff.2 ⟨holds.wellFormed, asks⟩
  have loaded : (KeySource.file path).load found = .loaded stored :=
    KeySource.load_eq_loaded_iff.2 holds
  simpa only [loaded] using run_of_match decoded tpm

/-- What the transport is asked, and what the client is told, for one body. -/
structure SignsOnlyStoredKey (found : KeyFile) (tpm : Tpm) (body : Bytes) (calls : List TpmCall)
    (reply : Reply) : Prop where
  opened : .opened ∈ calls → ∃ stored data flags,
    found.Holds stored ∧ Request.SignBody stored.publicKey data flags body
  given : ∀ stored algorithm data, .signed stored algorithm data ∈ calls → ∃ flags,
    found.Holds stored ∧ Request.SignBody stored.publicKey data flags body ∧
      algorithm = stored.publicKey.signatureAlgorithm flags
  signature : ∀ made, reply = .signature made → ∃ stored data flags,
    found.Holds stored ∧ Request.SignBody stored.publicKey data flags body ∧
      .signed stored (stored.publicKey.signatureAlgorithm flags) data ∈ calls ∧
      tpm.opens = .ok () ∧
      tpm.signs stored (stored.publicKey.signatureAlgorithm flags) data = .ok made
  refused : body.head? = some 13 → (∀ made, reply ≠ .signature made) → reply.encode = [5]
  asked : ∀ stored data flags, found.Holds stored →
    Request.SignBody stored.publicKey data flags body →
      calls = tpm.calls stored (stored.publicKey.signatureAlgorithm flags) data ∧
      reply = ((tpm.made? stored (stored.publicKey.signatureAlgorithm flags) data).map
        Reply.signature).getD .failure

theorem signed_of_calls {tpm : Tpm} {stored key : StoredKey} {algorithm chosen : Algorithm}
    {data signed : Bytes} (asked : .signed key chosen signed ∈ tpm.calls stored algorithm data) :
    key = stored ∧ chosen = algorithm ∧ signed = data := by
  unfold Tpm.calls at asked
  split at asked
  · simp at asked
  · simpa using asked

theorem made_of_made? {tpm : Tpm} {stored : StoredKey} {algorithm : Algorithm} {data : Bytes}
    {made : Signature} (found : tpm.made? stored algorithm data = some made) :
    tpm.opens = .ok () ∧ tpm.signs stored algorithm data = .ok made ∧
      .signed stored algorithm data ∈ tpm.calls stored algorithm data := by
  unfold Tpm.made? at found
  split at found
  · rename_i opens signs
    obtain rfl := Option.some.inj found
    exact ⟨opens, signs, by simp [Tpm.calls, opens]⟩
  · simp at found

variable {found : KeyFile} {tpm : Tpm} {calls : List TpmCall} {reply : Reply}

theorem Outcome.opened (outcome : Outcome found tpm body calls reply)
    (call : .opened ∈ calls) :
    ∃ stored data flags, found.Holds stored ∧
      Request.SignBody stored.publicKey data flags body := by
  cases outcome with
  | carriedOut stored data flags holds asks => exact ⟨stored, data, flags, holds, asks⟩
  | turnedDown reply unsigned failed => simp at call

theorem Outcome.given (outcome : Outcome found tpm body calls reply) {key : StoredKey}
    {algorithm : Algorithm} {signed : Bytes} (call : .signed key algorithm signed ∈ calls) :
    ∃ flags, found.Holds key ∧ Request.SignBody key.publicKey signed flags body ∧
      algorithm = key.publicKey.signatureAlgorithm flags := by
  cases outcome with
  | carriedOut stored data flags holds asks =>
    obtain ⟨rfl, rfl, rfl⟩ := signed_of_calls call
    exact ⟨flags, holds, asks, rfl⟩
  | turnedDown reply unsigned failed => simp at call

theorem Outcome.signature (outcome : Outcome found tpm body calls reply) {made : Signature}
    (told : reply = .signature made) :
    ∃ stored data flags, found.Holds stored ∧
      Request.SignBody stored.publicKey data flags body ∧
      .signed stored (stored.publicKey.signatureAlgorithm flags) data ∈ calls ∧
      tpm.opens = .ok () ∧
      tpm.signs stored (stored.publicKey.signatureAlgorithm flags) data = .ok made := by
  cases outcome with
  | carriedOut stored data flags holds asks =>
    cases result : tpm.made? stored (stored.publicKey.signatureAlgorithm flags) data with
    | none => simp [result] at told
    | some other =>
      obtain rfl : other = made := by simpa [result] using told
      obtain ⟨opens, signs, call⟩ := made_of_made? result
      exact ⟨stored, data, flags, holds, asks, call, opens, signs⟩
  | turnedDown reply unsigned failed => exact absurd told (unsigned made)

theorem Outcome.refused (outcome : Outcome found tpm body calls reply)
    (command : body.head? = some 13) (unsigned : ∀ made, reply ≠ .signature made) :
    reply.encode = [5] := by
  cases outcome with
  | carriedOut stored data flags holds asks =>
    cases result : tpm.made? stored (stored.publicKey.signatureAlgorithm flags) data with
    | none => rfl
    | some made => exact absurd (by simp [result]) (unsigned made)
  | turnedDown reply _ failed =>
    rw [failed command]
    rfl

theorem signs_only_stored_key (path : String) (found : KeyFile) (tpm : Tpm) (body : Bytes) :
    let answered := (ofAgent Agent.overStoredKey body).run ((KeySource.file path).load found) tpm
    SignsOnlyStoredKey found tpm body (Effect.tpmCalls answered.1) answered.2 := by
  have result := outcome path found tpm body
  exact
    { opened := result.opened
      given := fun _ _ _ call => result.given call
      signature := fun _ told => result.signature told
      refused := result.refused
      asked := fun _ _ _ holds asks => run_of_asked holds asks tpm }

theorem holds_unique {key other : StoredKey} (holds : found.Holds key)
    (again : found.Holds other) : key = other := by
  obtain ⟨content, rfl, decoded⟩ := holds
  obtain ⟨_, same, decodedAgain⟩ := again
  obtain rfl := KeyFile.file.inj same
  exact Except.ok.inj (decoded.symm.trans decodedAgain)

-- The first of these key strings gives its array a greater length than the array has. The other
-- goes on into the data. Neither is the blob of the stored key.
theorem signs_for_longer_key_strings :
    let stored : StoredKey := ⟨.ed25519 (List.replicate 32 7), "", []⟩
    let made : Signature := ⟨.ed25519, List.replicate 64 1⟩
    let tpm : Tpm := ⟨.ok (), fun _ _ _ => .ok made, .ok ()⟩
    let longerArray := Wire.putText "ssh-ed25519" ++ Wire.putWord32 33 ++ List.replicate 32 7
    let intoData := stored.publicKey.encode ++ [0]
    ∀ parts ∈ [(longerArray, [0, 0, 0, 0, 0, 0, 0, 0]), (intoData, [0, 0, 0, 0, 0, 0, 0])],
      let body := 13 :: (Wire.putBytes parts.1 ++ parts.2)
      let answered := (ofAgent Agent.overStoredKey body).run
        ((KeySource.file "ssh.key").load (.file stored.encode)) tpm
      .opened ∈ Effect.tpmCalls answered.1 ∧ answered.2 = .signature made ∧
        ∀ key, (KeyFile.file stored.encode).Holds key →
          key.publicKey.algorithm.isRsa = false ∧ parts.1 ≠ key.publicKey.encode := by
  intro stored made tpm longerArray intoData
  have holds : (KeyFile.file stored.encode).Holds stored := ⟨_, rfl, by decide +kernel⟩
  have only (key : StoredKey) (other : (KeyFile.file stored.encode).Holds key) : key = stored :=
    holds_unique other holds
  intro parts member
  simp only [List.mem_cons, List.not_mem_nil, or_false] at member
  rcases member with rfl | rfl
  · refine ⟨by decide +kernel, by decide +kernel, fun key other => ?_⟩
    rw [only key other]
    decide +kernel
  · refine ⟨by decide +kernel, by decide +kernel, fun key other => ?_⟩
    rw [only key other]
    decide +kernel

end Session

end SoleKey
