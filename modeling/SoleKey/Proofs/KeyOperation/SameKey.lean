import SoleKey.Proofs.KeyOperation.Transport
import SoleKey.Proofs.PrivateKey
import SoleKey.Proofs.Session
import SoleKey.Proofs.StoredKey.Grammar
import SoleKey.SoftwareTpm

set_option autoImplicit false

namespace SoleKey

namespace PublicKey

variable {key other stored requested : PublicKey}

def Readable (key : PublicKey) : Prop :=
  ∃ input rest, decode.run input = .ok (key, rest)

theorem readable_iff : key.Readable ↔ key.WellFormed := by
  constructor
  · intro ⟨input, rest, read⟩
    obtain ⟨taken, form, _⟩ := (reads_decode _ _ _).1 read
    exact form.1
  · intro wellFormed
    exact ⟨key.encode, [], run_decode_encode wellFormed⟩

theorem WellFormed.name_fits (wellFormed : key.WellFormed) :
    (Text.encode key.algorithm.name).length ≤ Wire.maxLength := by
  have labelled := wellFormed.labelled key.plain_algorithm
  have short : Wire.maxLabel ≤ Wire.maxLength := by decide
  exact Nat.le_trans (Algorithm.ofName?_name labelled).2 short

theorem WellFormed.strings_fit (wellFormed : key.WellFormed) :
    ∀ content ∈ key.strings, content.length ≤ Wire.maxLength := by
  have named := wellFormed.name_fits
  have curveNamed (curve : Curve) : (Text.encode curve.name).length ≤ Wire.maxLength := by
    cases curve <;> decide
  have enough : 133 ≤ Wire.maxLength := by decide
  cases key with
  | dsa p q g y =>
    obtain ⟨_, _, _, _, pFits, qFits, gFits, yFits⟩ := wellFormed
    simp [strings, named, pFits, qFits, gFits, yFits]
  | ecdsa curve point =>
    have short := pointCurve_length wellFormed
    simp only [strings, List.forall_mem_cons]
    exact ⟨named, curveNamed curve, Nat.le_trans short enough, by simp⟩
  | ed25519 key =>
    have size : key.length = 32 := wellFormed
    simp only [strings, List.forall_mem_cons]
    exact ⟨named, by omega, by simp⟩
  | rsa e n =>
    obtain ⟨_, _, eFits, nFits⟩ := wellFormed
    simp [strings, named, eFits, nFits]
  | skEcdsa point application =>
    have short := isSecurityKeyPoint_length wellFormed.1
    simp only [strings, List.forall_mem_cons]
    exact ⟨named, curveNamed .p256, by omega, wellFormed.2, by simp⟩
  | skEd25519 key application =>
    have size : key.length = 32 := wellFormed.1
    simp only [strings, List.forall_mem_cons]
    exact ⟨named, by omega, wellFormed.2, by simp⟩
  | other name data => simp [strings, named, wellFormed.2.2]

theorem WellFormed.putStrings_eq (wellFormed : key.WellFormed) :
    Wire.putStrings key.strings = .ok key.encode := by
  rw [encode_eq_flatMap]
  refine Wire.putStrings_eq_ok fun content there => ?_
  have fits := wellFormed.strings_fit content there
  have bound : Wire.maxLength < UInt32.size := by decide
  omega

theorem run_decode_append (wellFormed : key.WellFormed) (rest : Bytes) :
    decode.run (key.encode ++ rest) = .ok (key, rest) :=
  run_decode_append_iff.2 ⟨wellFormed, wellFormed.wireForm_encode⟩

theorem eq_of_encode_isPrefix (wellFormed : key.WellFormed) (wellFormedOther : other.WellFormed)
    (isPrefix : key.encode <+: other.encode) : key = other := by
  obtain ⟨rest, same⟩ := isPrefix
  have read := run_decode_append wellFormed rest
  rw [same, run_decode_encode wellFormedOther] at read
  exact (Prod.mk.inj (Except.ok.inj read)).1.symm

theorem encode_eq_iff (wellFormed : key.WellFormed) (wellFormedOther : other.WellFormed) :
    key.encode = other.encode ↔ key = other :=
  ⟨encode_inj wellFormed wellFormedOther, congrArg encode⟩

theorem signatureAlgorithm_of_not_rsa (notRsa : key.algorithm.isRsa = false)
    (flags : SignatureFlags) : key.signatureAlgorithm flags = key.algorithm := by
  cases key with
  | rsa => cases notRsa
  | dsa | ecdsa | ed25519 | skEcdsa | skEd25519 | other => rfl

end PublicKey

namespace SignatureFlags

def hashBits (flags : SignatureFlags) : UInt32 :=
  flags.bits &&& (rsaSha256.bits ||| rsaSha512.bits)

theorem contains_congr {flags others asked : SignatureFlags}
    (choosesHash : asked.hashBits = asked.bits) (same : flags.hashBits = others.hashBits) :
    flags.contains asked = others.contains asked := by
  have restrict (given : SignatureFlags) :
      given.bits &&& asked.bits = given.hashBits &&& asked.bits := by
    calc given.bits &&& asked.bits
      _ = given.bits &&& asked.hashBits := by rw [choosesHash]
      _ = given.hashBits &&& asked.bits := by
        rw [hashBits, hashBits, UInt32.and_comm asked.bits, UInt32.and_assoc]
  rw [contains, contains, restrict flags, restrict others, same]

end SignatureFlags

namespace PublicKey

theorem signatureAlgorithm_congr {flags others : SignatureFlags}
    (same : flags.hashBits = others.hashBits) (key : PublicKey) :
    key.signatureAlgorithm flags = key.signatureAlgorithm others := by
  have sha256 := SignatureFlags.contains_congr
    (rfl : SignatureFlags.rsaSha256.hashBits = _) same
  have sha512 := SignatureFlags.contains_congr
    (rfl : SignatureFlags.rsaSha512.hashBits = _) same
  rw [signatureAlgorithm, signatureAlgorithm, sha256, sha512]

end PublicKey

namespace SoftwareTpm

theorem recover_eq_keyMismatch_iff {key : StoredKey} {check : Nat} {pair : Keypair}
    {comment : String}
    (unsealed : PrivateKey.decode key.sealedPart = .ok (.clear check pair comment)) :
    recover key = .error .keyMismatch ↔ pair.publicKey ≠ key.publicKey := by
  by_cases own : pair.publicKey = key.publicKey <;> simp [recover, unsealed, own]

end SoftwareTpm

namespace KeyOperation

variable {key : StoredKey} {requested : PublicKey} {data : Bytes} {flags : SignatureFlags}

theorem order?_of_same (same : key.publicKey = requested) :
    (sign requested data flags).order? (.loaded key) =
      some ⟨key, requested.signatureAlgorithm flags, data⟩ := by
  subst same
  exact order?_eq_some_iff.2 ⟨key.publicKey, flags, rfl, rfl, rfl, rfl,
    key.publicKey.sameFamily_signatureAlgorithm flags⟩

theorem mapError_tpm_eq_iff {α : Type} {result : Except TpmError α} {problem : SigningError} :
    result.mapError SigningError.tpm = .error problem ↔
      ∃ cause, result = .error cause ∧ problem = .tpm cause := by
  cases result <;> simp [Except.mapError, eq_comm]

theorem refused_iff (tpm : Tpm) :
    ((sign requested data flags).conclude (.loaded key) tpm).2 = .error .noMatchingKey ↔
      key.publicKey.encode ≠ requested.encode := by
  constructor
  · intro refused same
    simp [conclude, runLoaded, same, mapError_tpm_eq_iff] at refused
  · intro different
    rw [conclude_of_different different]

theorem answer_of_tpm_error {order : SignOrder} {operation : KeyOperation} {found : Load}
    {tpm : Tpm} {problem : TpmError} (asked : operation.order? found = some order)
    (failed : (operation.conclude found tpm).2 = .error (.tpm problem)) :
    tpm.answer order = .error problem := by
  rw [conclude_of_order asked] at failed
  obtain ⟨cause, unsigned, same⟩ := mapError_tpm_eq_iff.1 failed
  obtain rfl := SigningError.tpm.inj same
  cases answered : tpm.answer order with
  | error other => simpa [answered, Except.map] using unsigned
  | ok made => simp [answered, Except.map] at unsigned

end KeyOperation

namespace StoredKey

/-- What the checks of a request make of a stored key and of the key that is asked for. -/
structure ChecksAgree (key : StoredKey) (requested : PublicKey) : Prop where
  writes : Wire.putStrings key.publicKey.strings = .ok key.publicKey.encode
  reads : ∀ rest, PublicKey.decode.run (key.publicKey.encode ++ rest) = .ok (key.publicKey, rest)
  oneBlob : key.publicKey.encode = requested.encode ↔ key.publicKey = requested
  noPrefix : key.publicKey.encode <+: requested.encode → key.publicKey.encode = requested.encode
  refuses : ∀ data flags tpm,
    ((KeyOperation.sign requested data flags).run (.loaded key) tpm).2 =
      .error .noMatchingKey ↔ key.publicKey ≠ requested
  unseals : ∀ check pair comment,
    PrivateKey.decode key.sealedPart = .ok (.clear check pair comment) →
    (SoftwareTpm.recover key = .error .keyMismatch ↔ pair.publicKey.encode ≠ key.publicKey.encode)
  family : key.publicKey.encode = requested.encode →
    ∀ flags, key.publicKey.algorithm.sameFamily (requested.signatureAlgorithm flags) = true
  orders : key.publicKey.encode = requested.encode → ∀ data flags,
    (KeyOperation.sign requested data flags).order? (.loaded key) =
      some ⟨key, requested.signatureAlgorithm flags, data⟩
  unsupported : ∀ data flags tpm asked own,
    ((KeyOperation.sign requested data flags).run (.loaded key) tpm).2 =
        .error (.tpm (.unsupportedAlgorithm asked own)) →
      tpm.answer ⟨key, requested.signatureAlgorithm flags, data⟩ =
        .error (.unsupportedAlgorithm asked own)
  oneAlgorithm : requested.algorithm.isRsa = false →
    ∀ flags, requested.signatureAlgorithm flags = requested.algorithm
  hashFlags : ∀ flags others : SignatureFlags, flags.hashBits = others.hashBits →
    requested.signatureAlgorithm flags = requested.signatureAlgorithm others

variable {key : StoredKey} {requested : PublicKey}

theorem checks_agree (stored : key.publicKey.Readable) (asked : requested.Readable) :
    key.ChecksAgree requested := by
  have wellFormed := PublicKey.readable_iff.1 stored
  have wellFormedAsked := PublicKey.readable_iff.1 asked
  have same := PublicKey.encode_eq_iff wellFormed wellFormedAsked
  exact
    { writes := wellFormed.putStrings_eq
      reads := PublicKey.run_decode_append wellFormed
      oneBlob := same
      noPrefix := fun isPrefix =>
        same.2 (PublicKey.eq_of_encode_isPrefix wellFormed wellFormedAsked isPrefix)
      refuses := fun data flags tpm => (KeyOperation.refused_iff tpm).trans (not_congr same)
      unseals := fun check pair comment unsealed => by
        have paired := (PrivateKey.readable_of_decode unsealed).wellFormed.publicKey
        rw [SoftwareTpm.recover_eq_keyMismatch_iff unsealed]
        exact (not_congr (PublicKey.encode_eq_iff paired wellFormed)).symm
      family := fun blobs flags =>
        same.1 blobs ▸ key.publicKey.sameFamily_signatureAlgorithm flags
      orders := fun blobs data flags => KeyOperation.order?_of_same (same.1 blobs)
      unsupported := fun data flags tpm asked own failed => by
        by_cases blobs : key.publicKey.encode = requested.encode
        · exact KeyOperation.answer_of_tpm_error (KeyOperation.order?_of_same (same.1 blobs)) failed
        · simp [KeyOperation.run_eq, KeyOperation.conclude_of_different blobs] at failed
      oneAlgorithm := PublicKey.signatureAlgorithm_of_not_rsa
      hashFlags := fun _ _ sameHash => PublicKey.signatureAlgorithm_congr sameHash requested }

theorem checks_agree_on_twins : ∃ (key : StoredKey) (requested : PublicKey),
    key.publicKey.Readable ∧ requested.Readable ∧
      key.publicKey.encodeFields = requested.encodeFields ∧ key.publicKey ≠ requested ∧ key.ChecksAgree requested := by
  let sevens : Bytes := List.replicate 32 7
  let key : StoredKey := ⟨.rsa sevens [], "", []⟩
  let twin : PublicKey := .skEd25519 sevens ""
  have stored : key.publicKey.Readable :=
    PublicKey.readable_iff.2 ⟨rfl, rfl, by decide, by decide⟩
  have asked : twin.Readable := PublicKey.readable_iff.2 ⟨rfl, by decide⟩
  exact ⟨key, twin, stored, asked, rfl, nofun, checks_agree stored asked⟩

end StoredKey

end SoleKey
