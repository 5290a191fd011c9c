import SoleKey.Proofs.PrivateKey
import SoleKey.Proofs.SoftwareTpm.Signing

set_option autoImplicit false

namespace SoleKey.SoftwareTpm

variable {check : Nat} {pair : Keypair} {comment : String} {key : StoredKey} {algorithm : Algorithm}
  {data : Bytes} {problem : TpmError}

theorem error_of_sign (recovered : recover key = .ok pair)
    (failed : sign key algorithm data = .error problem) :
    (∃ cause, problem = .signFailed cause) ∨
      problem = .unsupportedAlgorithm algorithm pair.algorithm := by
  cases signed : pair.sign data with
  | error cause =>
    simp only [sign, recovered, signed, Except.mapError, Bind.bind, Except.bind,
      Except.error.injEq] at failed
    exact .inl ⟨_, failed.symm⟩
  | ok made =>
    by_cases same : made.algorithm = algorithm
    · simp [sign, recovered, signed, same, Except.mapError, Bind.bind, Except.bind, pure,
        Except.pure] at failed
    · simp only [sign, recovered, signed, same, Except.mapError, Bind.bind, Except.bind, if_false,
        throw, throwThe, MonadExceptOf.throw, Except.error.injEq] at failed
      exact .inr failed.symm

theorem recover_of_error {cause : FormatError}
    (failed : PrivateKey.decode key.sealedPart = .error cause) :
    recover key = .error (.unsealFailed cause.message) := by
  simp only [recover, failed]

theorem recover_of_encrypted {publicKey : PublicKey}
    (found : PrivateKey.decode key.sealedPart = .ok (.encrypted publicKey)) :
    recover key = .error (.unsealFailed "sealed key is passphrase-protected") := by
  simp only [recover, found]

theorem sign_of_error (failed : recover key = .error problem) (algorithm : Algorithm)
    (data : Bytes) : sign key algorithm data = .error problem := by
  rw [sign, failed]
  rfl

structure Reopens (check : Nat) (pair : Keypair) (comment : String) (key : StoredKey) : Prop where
  unsealed : PrivateKey.decode key.sealedPart = .ok (.clear check pair comment)
  rewritten : key.sealedPart = PrivateKey.encodeClear check pair comment
  signs : ∀ algorithm data problem, sign key algorithm data = .error problem →
    problem ≠ .keyMismatch ∧ ∀ cause, problem ≠ .unsealFailed cause
  recorded : key.publicKey.encode.length ≤ Wire.maxLength →
    (Text.encode key.comment).length ≤ Wire.maxLength →
    key.sealedPart.length ≤ Wire.maxLength → StoredKey.decode key.encode = .ok key

/-- A zero byte before the scalar has made the part with the key pair one block too long. -/
structure Overgrown (check : Nat) (pair : Keypair) (comment : String) (key : StoredKey) :
    Prop where
  high : pair.IsHigh
  size : (PrivateKey.encodeBody check pair comment).length = Wire.maxLength + 1
  lost : PrivateKey.decode key.sealedPart = .error (.wire .overflow)
  refuses : ∀ algorithm data,
    sign key algorithm data = .error (.unsealFailed "internal overflow error")

def sealedKey (check : Nat) (pair : Keypair) (comment : String) : StoredKey :=
  ⟨pair.publicKey, comment, PrivateKey.encodeClear check pair comment⟩

theorem sealKey_clear : sealKey (.clear check pair comment) = .ok (sealedKey check pair comment) :=
  rfl

theorem reopens_sealedKey (readable : PrivateKey.Readable check pair comment)
    (fits : (PrivateKey.encodeBody check pair comment).length ≤ Wire.maxLength) :
    Reopens check pair comment (sealedKey check pair comment) := by
  have unsealed : PrivateKey.decode (sealedKey check pair comment).sealedPart =
      .ok (.clear check pair comment) := PrivateKey.decode_encodeClear readable fits
  have recovered : recover (sealedKey check pair comment) = .ok pair :=
    recover_eq_ok_iff.2 ⟨⟨check, comment, unsealed⟩, rfl⟩
  refine { unsealed := unsealed, rewritten := rfl, signs := ?_, recorded := ?_ }
  · intro algorithm data problem failed
    rcases error_of_sign recovered failed with ⟨cause, rfl⟩ | rfl
    · exact ⟨by simp, by simp⟩
    · exact ⟨by simp, by simp⟩
  · exact StoredKey.decode_encode readable.wellFormed.publicKey

theorem overgrown_sealedKey (readable : PrivateKey.Readable check pair comment)
    (long : Wire.maxLength < (PrivateKey.encodeBody check pair comment).length) :
    Overgrown check pair comment (sealedKey check pair comment) := by
  obtain ⟨high, size⟩ := readable.body.resolve_left (Nat.not_le.2 long)
  have lost : PrivateKey.decode (sealedKey check pair comment).sealedPart =
      .error (.wire .overflow) := PrivateKey.decode_encodeClear_overflow readable long
  exact
    { high := high
      size := size
      lost := lost
      refuses := sign_of_error (recover_of_error lost) }

/-- What comes of sealing the private key in this input, and of signing with it. -/
structure UnsealsWhatItSeals (input : Bytes) : Prop where
  clear : ∀ check pair comment, PrivateKey.decode input = .ok (.clear check pair comment) →
    ∃ key, sealKey (.clear check pair comment) = .ok key ∧ key.publicKey = pair.publicKey ∧
      key.comment = comment ∧
      ((PrivateKey.encodeBody check pair comment).length ≤ Wire.maxLength →
        Reopens check pair comment key) ∧
      (Wire.maxLength < (PrivateKey.encodeBody check pair comment).length →
        Overgrown check pair comment key)
  encrypted : ∀ publicKey, PrivateKey.decode input = .ok (.encrypted publicKey) →
    (∃ cause, sealKey (.encrypted publicKey) = .error (.unsealFailed cause)) ∧
    ∀ key algorithm data, key.sealedPart = input →
      ∃ cause, sign key algorithm data = .error (.unsealFailed cause)

theorem unseals_what_it_seals (input : Bytes) : UnsealsWhatItSeals input where
  clear := by
    intro check pair comment found
    have readable := PrivateKey.readable_of_decode found
    exact ⟨sealedKey check pair comment, sealKey_clear, rfl, rfl, reopens_sealedKey readable,
      overgrown_sealedKey readable⟩
  encrypted := by
    intro publicKey found
    refine ⟨⟨_, rfl⟩, ?_⟩
    rintro key algorithm data rfl
    exact ⟨_, sign_of_error (recover_of_encrypted found) algorithm data⟩

/-- A key pair with a high scalar, as it is written without a zero byte before the scalar. -/
def highPair : Keypair := .ecdsa .p256 (2 :: List.replicate 32 9) (0x80 :: List.replicate 31 1)

def highForm : Bytes :=
  highPair.algorithm.encode ++ (Wire.putText Curve.p256.name ++
    Wire.putBytes (2 :: List.replicate 32 9) ++ Wire.putBytes (0x80 :: List.replicate 31 1))

def highBody (comment : String) (count : Nat) : Bytes :=
  Wire.putWord32 5 ++ Wire.putWord32 5 ++ highForm ++ Wire.putText comment ++
    PrivateKey.padding count

def highKey (comment : String) (count : Nat) : Bytes :=
  PrivateKey.header ++ Wire.putText "none" ++ Wire.putText "none" ++ Wire.putBytes [] ++
    Wire.putWord32 1 ++ Wire.putBytes highPair.publicKey.encode ++
    Wire.putBytes (highBody comment count)

theorem length_highPair : highPair.encode.length = 109 := by decide

theorem length_highBody (comment : String) (count : Nat) :
    (highBody comment count).length = 120 + (Text.encode comment).length + count := by
  have form : highForm.length = 108 := by decide
  simp only [highBody, List.length_append, Wire.length_putWord32, form, Wire.putText,
    Wire.length_putBytes, PrivateKey.length_padding]
  omega

theorem decode_highKey (comment : String) {count : Nat} (short : count < PrivateKey.blockSize)
    (whole : (120 + (Text.encode comment).length + count) % PrivateKey.blockSize = 0)
    (fits : 120 + (Text.encode comment).length + count ≤ Wire.maxLength) :
    PrivateKey.decode (highKey comment count) = .ok (.clear 5 highPair comment) := by
  -- The length is that of the curve, so no zero byte is expected.
  have scalar : Keypair.ScalarForm .p256 (0x80 :: List.replicate 31 1)
      (Wire.putBytes (0x80 :: List.replicate 31 1)) :=
    ⟨by decide, .inr ⟨32, by decide, by decide, by decide, by decide⟩⟩
  have wire : highPair.WireForm highForm := ⟨.ecdsa .p256, _, rfl, ⟨_, scalar, rfl⟩, rfl⟩
  have wellFormed : highPair.WellFormed := ⟨rfl, rfl⟩
  have form : PrivateKey.BodyForm highPair.publicKey (.clear 5 highPair comment)
      (highBody comment count) :=
    ⟨5, highPair, comment, highForm, count, rfl, by decide, wellFormed, wire, rfl, by omega, short,
      rfl⟩
  have size := length_highBody comment count
  exact PrivateKey.decode_of_body wellFormed.publicKey (by decide) form (by rw [size, whole])
    (by rw [size]; exact fits)

-- The zero byte that is added fits here, so that the pair is read back.
theorem unseals_high_scalar :
    PrivateKey.decode (highKey "spare" 3) = .ok (.clear 5 highPair "spare") ∧
      ∃ key, sealKey (.clear 5 highPair "spare") = .ok key ∧ key.sealedPart ≠ highKey "spare" 3 ∧
        Reopens 5 highPair "spare" key := by
  have found : PrivateKey.decode (highKey "spare" 3) = .ok (.clear 5 highPair "spare") :=
    decode_highKey "spare" (by decide) (by decide) (by decide)
  obtain ⟨key, sealed, _, _, reopens, _⟩ :=
    (unseals_what_it_seals (highKey "spare" 3)).clear 5 highPair "spare" found
  have fits : (PrivateKey.encodeBody 5 highPair "spare").length ≤ Wire.maxLength := by
    rw [PrivateKey.length_encodeBody, length_highPair]
    decide
  have changed : key.sealedPart ≠ highKey "spare" 3 := by
    rw [← Except.ok.inj sealed]
    decide +kernel
  exact ⟨found, key, sealed, changed, reopens fits⟩

def longestComment : String := String.ofList (List.replicate 1048448 'c')

theorem loses_high_scalar :
    PrivateKey.decode (highKey longestComment 0) = .ok (.clear 5 highPair longestComment) ∧
      ∃ key, sealKey (.clear 5 highPair longestComment) = .ok key ∧
        PrivateKey.decode key.sealedPart = .error (.wire .overflow) ∧
        ∀ algorithm data,
          sign key algorithm data = .error (.unsealFailed "internal overflow error") := by
  have comment : (Text.encode longestComment).length = 1048448 :=
    Text.length_encode_replicate 1048448
  have found : PrivateKey.decode (highKey longestComment 0) =
      .ok (.clear 5 highPair longestComment) := by
    refine decode_highKey longestComment (by decide) ?_ ?_
    · rw [comment]
      decide
    · rw [comment]
      decide
  have long : Wire.maxLength <
      (PrivateKey.encodeBody 5 highPair longestComment).length := by
    rw [PrivateKey.length_encodeBody, comment, length_highPair]
    decide
  have overgrown := overgrown_sealedKey (PrivateKey.readable_of_decode found) long
  exact ⟨found, _, sealKey_clear, overgrown.lost, overgrown.refuses⟩

end SoleKey.SoftwareTpm
