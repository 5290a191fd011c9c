import SoleKey.Proofs.Session
import SoleKey.SoftwareTpm

set_option autoImplicit false

namespace SoleKey

namespace Keypair

def ownAlgorithm (pair : Keypair) : Algorithm :=
  match pair.algorithm with
  | .rsa _ => .rsa (some .sha512)
  | single => single

theorem algorithm_of_sign {pair : Keypair} {data : Bytes} {made : Signature}
    (signed : pair.sign data = .ok made) : made.algorithm = pair.ownAlgorithm := by
  cases pair with
  | ed25519 key seed =>
    obtain rfl := Except.ok.inj signed
    rfl
  | ecdsa curve point scalar =>
    simp only [sign] at signed
    split at signed
    · obtain rfl := Except.ok.inj signed
      rfl
    · simp at signed
  | rsa n e d inverse p q =>
    simp only [sign] at signed
    obtain ⟨numbers, _, signed⟩ := bind_eq_ok_iff.1 signed
    split at signed
    · obtain rfl := Except.ok.inj signed
      rfl
    · simp at signed
  | dsa | skEcdsa | skEd25519 | other => simp [sign] at signed

theorem sameFamily_ownAlgorithm (pair : Keypair) :
    pair.publicKey.algorithm.sameFamily pair.ownAlgorithm = true := by
  cases pair <;> simp [ownAlgorithm, algorithm, publicKey, PublicKey.algorithm,
    Algorithm.sameFamily, Algorithm.isRsa]

theorem ownAlgorithm_of_isRsa {pair : Keypair} (rsa : pair.ownAlgorithm.isRsa = true) :
    pair.ownAlgorithm = .rsa (some .sha512) := by
  cases pair <;> simp_all [ownAlgorithm, algorithm, publicKey, PublicKey.algorithm, Algorithm.isRsa]

theorem isRsa_ownAlgorithm (pair : Keypair) :
    pair.ownAlgorithm.isRsa = pair.publicKey.algorithm.isRsa := by
  cases pair <;> rfl

end Keypair

theorem PublicKey.isRsa_signatureAlgorithm (key : PublicKey) (flags : SignatureFlags) :
    (key.signatureAlgorithm flags).isRsa = key.algorithm.isRsa := by
  cases key with
  | rsa e n =>
    simp only [signatureAlgorithm, algorithm]
    split
    · rfl
    · split <;> rfl
  | dsa | ecdsa | ed25519 | skEcdsa | skEd25519 | other => rfl

theorem PublicKey.rsaSha512_of_signatureAlgorithm {key : PublicKey} {flags : SignatureFlags}
    (chosen : key.signatureAlgorithm flags = .rsa (some .sha512)) :
    flags.contains .rsaSha512 = true := by
  cases key with
  | rsa e n =>
    by_cases asked : flags.contains .rsaSha512
    · exact asked
    · simp only [signatureAlgorithm, algorithm, asked, Bool.false_eq_true, if_false] at chosen
      split at chosen <;> simp at chosen
  | dsa | ecdsa | ed25519 | skEcdsa | skEd25519 | other =>
    simp [signatureAlgorithm, algorithm] at chosen

namespace KeyOperation

variable {requested : PublicKey} {data : Bytes} {flags : SignatureFlags} {made : Signature}

theorem signature_of_run_iff {load : Load} {tpm : Tpm} :
    ((sign requested data flags).run load tpm).2 = .ok (.signature made) ↔
      ∃ key, load = .loaded key ∧ key.publicKey.encode = requested.encode ∧
        key.publicKey.algorithm.sameFamily (requested.signatureAlgorithm flags) = true ∧
        tpm.made? key (requested.signatureAlgorithm flags) data = some made := by
  rw [run_eq]
  cases load with
  | crashed => simp [conclude]
  | failed problem => simp [conclude]
  | loaded key =>
    by_cases same : key.publicKey.encode = requested.encode
    · by_cases family :
          key.publicKey.algorithm.sameFamily (requested.signatureAlgorithm flags) = true
      · have told := (conclude_match same family data tpm).2
        rw [← toOption_eq_some_iff, told]
        simp [same, family]
      · simp [conclude, runLoaded, same, StoredKey.signWith, family, Except.map, Except.mapError]
    · simp [conclude, runLoaded, same]

end KeyOperation

namespace SoftwareTpm

variable {key : StoredKey} {algorithm : Algorithm} {data : Bytes} {made : Signature}

theorem recover_eq_ok_iff {pair : Keypair} :
    recover key = .ok pair ↔
      (∃ check comment, PrivateKey.decode key.sealedPart = .ok (.clear check pair comment)) ∧
        pair.publicKey = key.publicKey := by
  unfold recover
  cases PrivateKey.decode key.sealedPart with
  | error problem => simp
  | ok found =>
    cases found with
    | encrypted publicKey => simp
    | clear check other comment =>
      by_cases own : other.publicKey = key.publicKey
      · simp only [own, if_true, Except.ok.injEq, PrivateKey.clear.injEq]
        constructor
        · rintro rfl
          exact ⟨⟨check, comment, rfl, rfl, rfl⟩, own⟩
        · rintro ⟨⟨_, _, _, rfl, _⟩, _⟩
          rfl
      · simp only [own, if_false, reduceCtorEq, Except.ok.injEq, PrivateKey.clear.injEq, false_iff]
        rintro ⟨⟨_, _, _, rfl, _⟩, same⟩
        exact own same

theorem sign_eq_ok_iff :
    sign key algorithm data = .ok made ↔
      ∃ pair, recover key = .ok pair ∧ pair.sign data = .ok made ∧ made.algorithm = algorithm := by
  unfold sign
  simp only [bind_eq_ok_iff, mapError_eq_ok_iff, guard_eq_ok_iff, pure, Except.pure,
    Except.ok.injEq]
  constructor
  · rintro ⟨pair, found, _, signed, same, rfl⟩
    exact ⟨pair, found, signed, same⟩
  · rintro ⟨pair, found, signed, same⟩
    exact ⟨pair, found, made, signed, same, rfl⟩

theorem made?_eq_some_iff :
    softwareTpm.made? key algorithm data = some made ↔ sign key algorithm data = .ok made := by
  have opens : softwareTpm.opens = .ok () := rfl
  have signs : softwareTpm.signs key algorithm data = sign key algorithm data := rfl
  cases signed : sign key algorithm data <;> simp [Tpm.made?, opens, signs, signed]

/-- The private key that was unsealed from a stored key has made the signature that was asked for. -/
structure SignedWith (key : StoredKey) (pair : Keypair) (requested : PublicKey) (data : Bytes)
    (flags : SignatureFlags) (made : Signature) : Prop where
  unsealed : ∃ check comment,
    PrivateKey.decode key.sealedPart = .ok (.clear check pair comment)
  own : pair.publicKey = key.publicKey
  asked : pair.publicKey.encode = requested.encode
  signed : pair.sign data = .ok made
  algorithm : made.algorithm = requested.signatureAlgorithm flags

theorem signature_iff_signedWith {load : Load} {requested : PublicKey} {flags : SignatureFlags} :
    ((KeyOperation.sign requested data flags).run load softwareTpm).2 = .ok (.signature made) ↔
      ∃ key pair, load = .loaded key ∧ SignedWith key pair requested data flags made := by
  rw [KeyOperation.signature_of_run_iff]
  constructor
  · rintro ⟨key, loaded, same, _, given⟩
    obtain ⟨pair, found, signed, algorithm⟩ := sign_eq_ok_iff.1 (made?_eq_some_iff.1 given)
    obtain ⟨unsealed, own⟩ := recover_eq_ok_iff.1 found
    exact ⟨key, pair, loaded, ⟨unsealed, own, own ▸ same, signed, algorithm⟩⟩
  · rintro ⟨key, pair, loaded, made⟩
    -- The family is checked before anything is signed; here it follows from what was signed.
    have family : key.publicKey.algorithm.sameFamily (requested.signatureAlgorithm flags) = true := by
      rw [← made.algorithm, Keypair.algorithm_of_sign made.signed, ← made.own]
      exact pair.sameFamily_ownAlgorithm
    have found := recover_eq_ok_iff.2 ⟨made.unsealed, made.own⟩
    have given := made?_eq_some_iff.2 (sign_eq_ok_iff.2 ⟨pair, found, made.signed, made.algorithm⟩)
    exact ⟨key, loaded, made.own ▸ made.asked, family, given⟩

theorem SignedWith.rsa {pair : Keypair} {requested : PublicKey} {flags : SignatureFlags}
    (signedWith : SignedWith key pair requested data flags made)
    (rsa : requested.algorithm.isRsa = true ∨ key.publicKey.algorithm.isRsa = true) :
    flags.contains .rsaSha512 = true ∧ made.algorithm = .rsa (some .sha512) := by
  have own := Keypair.algorithm_of_sign signedWith.signed
  have chosen := signedWith.algorithm
  have ownRsa : pair.ownAlgorithm.isRsa = true := by
    rcases rsa with asked | stored
    · rw [← own, chosen, PublicKey.isRsa_signatureAlgorithm, asked]
    · rw [Keypair.isRsa_ownAlgorithm, signedWith.own, stored]
  have sha512 := own.trans (Keypair.ownAlgorithm_of_isRsa ownRsa)
  exact ⟨PublicKey.rsaSha512_of_signatureAlgorithm (chosen.symm.trans sha512), sha512⟩

theorem signs_only_with_requested_key (path : String) (found : KeyFile) (requested : PublicKey)
    (data : Bytes) (flags : SignatureFlags) (made : Signature) :
    let signs := ((KeyOperation.sign requested data flags).run
      ((KeySource.file path).load found) softwareTpm).2 = .ok (.signature made)
    (signs ↔ ∃ key pair, found.Holds key ∧ SignedWith key pair requested data flags made) ∧
      (signs → (requested.algorithm.isRsa = true ∨
          ∃ key, found.Holds key ∧ key.publicKey.algorithm.isRsa = true) →
        flags.contains .rsaSha512 = true ∧ made.algorithm = .rsa (some .sha512)) := by
  intro signs
  have origin : signs ↔
      ∃ key pair, found.Holds key ∧ SignedWith key pair requested data flags made := by
    simp only [signs, signature_iff_signedWith, KeySource.load_eq_loaded_iff]
  refine ⟨origin, ?_⟩
  intro signed rsa
  obtain ⟨key, pair, holds, signedWith⟩ := origin.1 signed
  refine signedWith.rsa ?_
  rcases rsa with asked | ⟨other, holdsOther, stored⟩
  · exact .inl asked
  · exact .inr (Session.holds_unique holds holdsOther ▸ stored)

end SoftwareTpm

end SoleKey
