import SoleKey.Proofs.SoftwareTpm.Signing

set_option autoImplicit false

namespace SoleKey

namespace Bytes

@[simp] theorem length_ofNatReversed (width value : Nat) :
    (ofNatReversed width value).length = width := by
  induction width generalizing value with
  | zero => rfl
  | succ width ih => simp [ofNatReversed, ih]

theorem length_dropZeros_le (bytes : Bytes) : (dropZeros bytes).length ≤ bytes.length :=
  (List.dropWhile_suffix _).length_le

end Bytes

namespace Mpint

theorem length_ofDigits_le (digits : Bytes) : (ofDigits digits).length ≤ digits.length + 1 := by
  have fewer := Bytes.length_dropZeros_le digits
  unfold ofDigits
  split
  · simp
  · rename_i first rest left
    rw [left] at fewer
    split <;> simp only [List.length_cons] at fewer ⊢ <;> omega

theorem length_of_positive? {content digits : Bytes} (found : positive? content = some digits) :
    digits.length ≤ content.length := by
  unfold positive? at found
  split at found
  · simp at found
  · obtain rfl := Option.some.inj found
    simp
  · split at found
    · obtain rfl := Option.some.inj found
      exact Nat.le_refl _
    · simp at found

end Mpint

theorem Crypto.Rsa.byteSize_toNat_le (digits : Bytes) :
    byteSize (Bytes.toNat digits) ≤ digits.length := by
  have below : Bytes.toNat digits < 2 ^ (8 * digits.length) := by
    rw [Nat.pow_mul]
    exact Bytes.toNat_lt digits
  have bits : bitLength (Bytes.toNat digits) ≤ 8 * digits.length := by
    unfold bitLength
    split
    · simp
    · rename_i positive
      exact (Nat.log2_lt positive).2 below
  unfold byteSize
  omega

namespace Signature

theorem length_encode (signature : Signature) :
    signature.encode.length = signature.algorithm.encode.length + 4 + signature.data.length := by
  unfold encode
  simp only [List.length_append, Wire.length_putBytes, List.length_take, List.length_drop]
  split <;> omega

end Signature

namespace Keypair

variable {pair : Keypair} {data : Bytes} {made : Signature}

theorem length_encodePair_le (curve : Curve) (found : Crypto.Ecdsa.Signature) :
    (encodePair curve found).length ≤ 142 := by
  have digits (value : Nat) :
      (Mpint.encode (Mpint.ofDigits (Bytes.ofNat curve.fieldSize value))).length ≤ 71 := by
    have short := Mpint.length_ofDigits_le (Bytes.ofNat curve.fieldSize value)
    have field := curve.fieldSize_le
    rw [Bytes.length_ofNat] at short
    simp only [Mpint.encode, Wire.length_putBytes]
    omega
  have r := digits found.r
  have s := digits found.s
  simp only [encodePair, List.length_append]
  omega

theorem positive_eq_ok_iff {content : Bytes} {value : Nat} :
    positive content = .ok value ↔
      ∃ digits, Mpint.positive? content = some digits ∧ Bytes.toNat digits = value := by
  unfold positive
  cases Mpint.positive? content <;> simp

theorem modulus_of_rsaNumbers {n e d p : Bytes} {numbers : Crypto.Rsa.PrivateNumbers}
    (found : rsaNumbers n e d p = .ok numbers) : positive n = .ok numbers.n := by
  simp only [rsaNumbers, bind_eq_ok_iff, guard_eq_ok_iff, pure, Except.pure, Except.ok.injEq]
    at found
  obtain ⟨modulus, found, _, _, _, _, _, _, _, rfl⟩ := found
  exact found

theorem length_of_rsaSign {numbers : Crypto.Rsa.PrivateNumbers} {found : Bytes}
    (signed : Crypto.Rsa.sign? numbers data = some found) :
    found.length = Crypto.Rsa.byteSize numbers.n := by
  simp only [Crypto.Rsa.sign?] at signed
  split at signed
  · obtain rfl := Option.some.inj signed
    exact Bytes.length_ofNat _ _
  · simp at signed

-- An RSA signature is as long as the modulus, which is part of the public key, so it is hardly
-- longer than a request that names this key.
theorem length_of_sign (signed : pair.sign data = .ok made) :
    made.encode.length ≤ max 200 (pair.publicKey.encode.length + 1) := by
  rw [Signature.length_encode]
  cases pair with
  | ed25519 key seed =>
    obtain rfl := Except.ok.inj signed
    have label : (Algorithm.encode .ed25519).length = 15 := by decide
    have size : (Crypto.Ed25519.sign seed data).length = 64 := by
      simp [Crypto.Ed25519.sign, Crypto.Ed25519.Point.encode]
    dsimp only
    omega
  | ecdsa curve point scalar =>
    simp only [sign] at signed
    split at signed
    · rename_i found _
      obtain rfl := Except.ok.inj signed
      have label : (Algorithm.encode (.ecdsa curve)).length = 23 := by cases curve <;> decide
      have size := length_encodePair_le curve found
      dsimp only
      omega
    · simp at signed
  | rsa n e d inverse p q =>
    simp only [sign] at signed
    obtain ⟨numbers, usable, signed⟩ := bind_eq_ok_iff.1 signed
    split at signed
    · rename_i found released
      obtain rfl := Except.ok.inj signed
      -- The signature is as long as the modulus, and the blob of the key holds the modulus.
      obtain ⟨digits, positive, same⟩ := positive_eq_ok_iff.1 (modulus_of_rsaNumbers usable)
      have label : (Algorithm.encode (.rsa (some .sha512))).length = 16 := by decide
      have plain : (Algorithm.encode (.rsa none)).length = 11 := by decide
      have size := length_of_rsaSign released
      have fits := Crypto.Rsa.byteSize_toNat_le digits
      have fewer := Mpint.length_of_positive? positive
      simp only [publicKey, PublicKey.encode, PublicKey.algorithm, PublicKey.encodeFields,
        Mpint.encode, List.length_append, Wire.length_putBytes]
      rw [← same] at size
      omega
    · simp at signed
  | dsa | skEcdsa | skEd25519 | other => simp [sign] at signed

end Keypair

end SoleKey
