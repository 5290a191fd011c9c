import SoleKey.PrivateKey
import SoleKey.Proofs.PublicKey

set_option autoImplicit false

namespace SoleKey

open Decoder

namespace Keypair

def WellFormed : Keypair → Prop
  | .dsa p q g y x =>
      (PublicKey.dsa p q g y).WellFormed ∧ Mpint.isCanonical x ∧ x.length ≤ Wire.maxLength
  | .ecdsa curve point scalar =>
      (PublicKey.ecdsa curve point).WellFormed ∧ scalar.length = curve.fieldSize
  | .ed25519 key seed =>
      (PublicKey.ed25519 key).WellFormed ∧ seed.length = 32 ∧ Crypto.Ed25519.publicKey seed = key
  | .rsa n e d inverse p q => ∀ number ∈ [n, e, d, inverse, p, q],
      Mpint.isCanonical number ∧ number.length ≤ Wire.maxLength
  | .skEcdsa point application _ handle reserved =>
      (PublicKey.skEcdsa point application).WellFormed ∧ handle.length ≤ Wire.maxLength ∧
        reserved.length ≤ Wire.maxLength
  | .skEd25519 key application _ handle reserved =>
      (PublicKey.skEd25519 key application).WellFormed ∧ handle.length ≤ Wire.maxLength ∧
        reserved.length ≤ Wire.maxLength
  | .other name publicData privateData =>
      (PublicKey.other name publicData).WellFormed ∧ privateData.length ≤ Wire.maxLength

/-- A scalar as it is read. Its size with a zero byte in front is the one that needs this byte. -/
def ScalarForm (curve : Curve) (scalar taken : Bytes) : Prop :=
  scalar.length = curve.fieldSize ∧
    (taken = Wire.putBytes (0 :: scalar) ∨
      ∃ count, curve.fieldSize ≤ count ∧ count ≠ curve.fieldSize + 1 ∧ count ≤ Wire.maxLength ∧
        taken = Wire.putWord32 count ++ scalar)

def FieldsForm : Keypair → Bytes → Prop
  | .ecdsa curve point scalar, taken => ∃ written, ScalarForm curve scalar written ∧
      taken = Wire.putText curve.name ++ Wire.putBytes point ++ written
  | .ed25519 key seed, taken => ∃ count both, 32 ≤ count ∧ count ≤ Wire.maxLength ∧ 64 ≤ both ∧
      both ≤ Wire.maxLength ∧
      taken = Wire.putWord32 count ++ key ++ Wire.putWord32 both ++ (seed ++ key)
  | .skEd25519 key application flags handle reserved, taken =>
      ∃ count, 32 ≤ count ∧ count ≤ Wire.maxLength ∧
        taken = Wire.putWord32 count ++ key ++ Wire.putText application ++ [flags] ++
          Wire.putBytes handle ++ Wire.putBytes reserved
  | pair, taken => taken = pair.encodeFields

def WireForm (pair : Keypair) (taken : Bytes) : Prop :=
  ∃ (algorithm : Algorithm) (fields : Bytes), algorithm.plain = pair.algorithm ∧
    pair.FieldsForm fields ∧ taken = algorithm.encode ++ fields

theorem reads_decodeScalar (curve : Curve) : Reads (decodeScalar curve) (ScalarForm curve) := by
  have inside (count : Nat) : Reads
      (if count = curve.fieldSize + 1 then do
          if (← Wire.byte) ≠ 0 then throw .encoding
          Wire.raw curve.fieldSize
        else Wire.raw curve.fieldSize : KeyDecoder Bytes)
      fun scalar taken => scalar.length = curve.fieldSize ∧
        taken = if count = curve.fieldSize + 1 then 0 :: scalar else scalar := by
    by_cases padded : count = curve.fieldSize + 1
    · simp only [padded, if_true]
      refine ((Wire.reads_byte.mapError FormatError.wire).bind fun first => Reads.guard
        ((Wire.reads_raw curve.fieldSize).mapError FormatError.wire) (first ≠ 0)
        (reads_throw_bind .encoding _)).congr ?_
      intro scalar taken
      constructor
      · rintro ⟨first, _, _, rfl, ⟨zero, size, rfl⟩, rfl⟩
        obtain rfl : first = 0 := by simpa using zero
        exact ⟨size, rfl⟩
      · rintro ⟨size, rfl⟩
        exact ⟨0, [0], scalar, rfl, ⟨by simp, size, rfl⟩, rfl⟩
    · simp only [padded, if_false]
      exact (Wire.reads_raw curve.fieldSize).mapError FormatError.wire
  refine ((Wire.reads_length.mapError FormatError.wire).bind fun count =>
    Wire.Reads.within (inside count) count).congr ?_
  have field := curve.fieldSize_le
  intro scalar taken
  constructor
  · rintro ⟨count, _, _, ⟨fits, rfl⟩, ⟨within, size, rfl⟩, rfl⟩
    refine ⟨size, ?_⟩
    by_cases padded : count = curve.fieldSize + 1
    · simp [padded, Wire.putBytes, size]
    · simp only [padded, if_false] at within ⊢
      exact .inr ⟨count, size ▸ within, padded, fits, rfl⟩
  · rintro ⟨size, rfl | ⟨count, within, padded, fits, rfl⟩⟩
    · have fits : curve.fieldSize + 1 ≤ Wire.maxLength := by
        simp only [Wire.maxLength]
        omega
      exact ⟨curve.fieldSize + 1, _, 0 :: scalar, ⟨fits, rfl⟩,
        ⟨by simp [size], size, by simp⟩, by simp [Wire.putBytes, size]⟩
    · exact ⟨count, _, scalar, ⟨fits, rfl⟩, ⟨size ▸ within, size, by simp [padded]⟩, rfl⟩

def FieldsOf (algorithm : Algorithm) (pair : Keypair) (taken : Bytes) : Prop :=
  pair.WellFormed ∧ pair.algorithm = algorithm.plain ∧ pair.FieldsForm taken

theorem reads_dsa : Reads (decodeFields .dsa) (FieldsOf .dsa) := by
  refine (Mpint.reads_decode.bind fun p => Mpint.reads_decode.bind fun q =>
    Mpint.reads_decode.bind fun g => Mpint.reads_decode.bind fun y =>
      Mpint.reads_decode.bind fun x => reads_pure (Keypair.dsa p q g y x)).congr ?_
  intro pair taken
  constructor
  · rintro ⟨p, _, _, ⟨pGood, pFits, rfl⟩, ⟨q, _, _, ⟨qGood, qFits, rfl⟩, ⟨g, _, _,
      ⟨gGood, gFits, rfl⟩, ⟨y, _, _, ⟨yGood, yFits, rfl⟩, ⟨x, _, _, ⟨xGood, xFits, rfl⟩,
      ⟨rfl, rfl⟩, rfl⟩, rfl⟩, rfl⟩, rfl⟩, rfl⟩
    exact ⟨⟨⟨pGood, qGood, gGood, yGood, pFits, qFits, gFits, yFits⟩, xGood, xFits⟩, rfl,
      by simp [FieldsForm, encodeFields]⟩
  · rintro ⟨wellFormed, same, form⟩
    cases pair <;> simp [algorithm, publicKey, PublicKey.algorithm, Algorithm.plain] at same
    rename_i p q g y x
    obtain ⟨⟨pGood, qGood, gGood, yGood, pFits, qFits, gFits, yFits⟩, xGood, xFits⟩ := wellFormed
    exact ⟨p, _, _, ⟨pGood, pFits, rfl⟩, ⟨q, _, _, ⟨qGood, qFits, rfl⟩, ⟨g, _, _,
      ⟨gGood, gFits, rfl⟩, ⟨y, _, _, ⟨yGood, yFits, rfl⟩, ⟨x, _, [], ⟨xGood, xFits, rfl⟩,
      ⟨rfl, rfl⟩, rfl⟩, rfl⟩, rfl⟩, rfl⟩, by simpa [FieldsForm, encodeFields] using form⟩

theorem reads_ecdsa (curve : Curve) :
    Reads (decodeFields (.ecdsa curve)) (FieldsOf (.ecdsa curve)) := by
  refine (PublicKey.reads_decodePoint.bind fun found => (reads_decodeScalar found.1).bind
    fun scalar => reads_check (Keypair.ecdsa curve found.2 scalar) (found.1 = curve)
      .unknownAlgorithm).congr ?_
  intro pair taken
  constructor
  · rintro ⟨⟨found, point⟩, _, _, ⟨onCurve, rfl⟩, ⟨scalar, written, _, form, ⟨rfl, rfl, rfl⟩, rfl⟩,
      rfl⟩
    exact ⟨⟨onCurve, form.1⟩, rfl, written, form, by simp⟩
  · rintro ⟨wellFormed, same, form⟩
    cases pair <;> simp [algorithm, publicKey, PublicKey.algorithm, Algorithm.plain] at same
    subst same
    rename_i curve point scalar
    obtain ⟨written, scalarForm, rfl⟩ := form
    exact ⟨(curve, point), _, _, ⟨wellFormed.1, rfl⟩,
      ⟨scalar, written, [], scalarForm, ⟨rfl, rfl, rfl⟩, rfl⟩, by simp⟩

theorem reads_ed25519 : Reads (decodeFields .ed25519) (FieldsOf .ed25519) := by
  refine (((Wire.reads_array 32).mapError FormatError.wire).bind fun key =>
    ((Wire.reads_array 64).mapError FormatError.wire).bind fun both =>
      reads_check (Keypair.ed25519 key (both.take 32))
        (both.drop 32 = key ∧ Crypto.Ed25519.publicKey (both.take 32) = key)
        .cryptographic).congr ?_
  intro pair taken
  constructor
  · rintro ⟨key, _, _, ⟨count, size, enough, fits, rfl⟩, ⟨both, _, _,
      ⟨counted, whole, enoughBoth, fitsBoth, rfl⟩, ⟨⟨back, own⟩, rfl, rfl⟩, rfl⟩, rfl⟩
    have front : (both.take 32).length = 32 := by simp [whole]
    refine ⟨⟨size, front, own⟩, rfl, count, counted, enough, fits, enoughBoth, fitsBoth, ?_⟩
    rw [← back, List.take_append_drop]
    simp
  · rintro ⟨wellFormed, same, form⟩
    cases pair <;> simp [algorithm, publicKey, PublicKey.algorithm, Algorithm.plain] at same
    rename_i key seed
    obtain ⟨size, front, own⟩ := wellFormed
    obtain ⟨count, counted, enough, fits, enoughBoth, fitsBoth, rfl⟩ := form
    have size : key.length = 32 := size
    have take : (seed ++ key).take 32 = seed := by simp [← front]
    have drop : (seed ++ key).drop 32 = key := by simp [← front]
    exact ⟨key, _, _, ⟨count, size, enough, fits, rfl⟩, ⟨seed ++ key, _, [],
      ⟨counted, by simp [front, size], enoughBoth, fitsBoth, rfl⟩,
      ⟨⟨drop, by rw [take, own]⟩, by rw [take], rfl⟩, rfl⟩, by simp⟩

theorem reads_rsa (hash : Option RsaHash) :
    Reads (decodeFields (.rsa hash)) (FieldsOf (.rsa hash)) := by
  refine (Mpint.reads_decode.bind fun n => Mpint.reads_decode.bind fun e =>
    Mpint.reads_decode.bind fun d => Mpint.reads_decode.bind fun inverse =>
      Mpint.reads_decode.bind fun p => Mpint.reads_decode.bind fun q =>
        reads_pure (Keypair.rsa n e d inverse p q)).congr ?_
  intro pair taken
  constructor
  · rintro ⟨n, _, _, ⟨nGood, nFits, rfl⟩, ⟨e, _, _, ⟨eGood, eFits, rfl⟩, ⟨d, _, _,
      ⟨dGood, dFits, rfl⟩, ⟨inverse, _, _, ⟨inverseGood, inverseFits, rfl⟩, ⟨p, _, _,
      ⟨pGood, pFits, rfl⟩, ⟨q, _, _, ⟨qGood, qFits, rfl⟩, ⟨rfl, rfl⟩, rfl⟩, rfl⟩, rfl⟩, rfl⟩, rfl⟩,
      rfl⟩
    refine ⟨?_, rfl, by simp [FieldsForm, encodeFields]⟩
    simp only [WellFormed, List.forall_mem_cons, List.not_mem_nil, false_implies, implies_true,
      and_true]
    exact ⟨⟨nGood, nFits⟩, ⟨eGood, eFits⟩, ⟨dGood, dFits⟩, ⟨inverseGood, inverseFits⟩,
      ⟨pGood, pFits⟩, qGood, qFits⟩
  · rintro ⟨wellFormed, same, form⟩
    cases pair <;> simp [algorithm, publicKey, PublicKey.algorithm, Algorithm.plain] at same
    rename_i n e d inverse p q
    simp only [WellFormed, List.forall_mem_cons, List.not_mem_nil, false_implies, implies_true,
      and_true] at wellFormed
    obtain ⟨⟨nGood, nFits⟩, ⟨eGood, eFits⟩, ⟨dGood, dFits⟩, ⟨inverseGood, inverseFits⟩,
      ⟨pGood, pFits⟩, qGood, qFits⟩ := wellFormed
    exact ⟨n, _, _, ⟨nGood, nFits, rfl⟩, ⟨e, _, _, ⟨eGood, eFits, rfl⟩, ⟨d, _, _,
      ⟨dGood, dFits, rfl⟩, ⟨inverse, _, _, ⟨inverseGood, inverseFits, rfl⟩, ⟨p, _, _,
      ⟨pGood, pFits, rfl⟩, ⟨q, _, [], ⟨qGood, qFits, rfl⟩, ⟨rfl, rfl⟩, rfl⟩, rfl⟩, rfl⟩, rfl⟩, rfl⟩,
      by simpa [FieldsForm, encodeFields] using form⟩

theorem reads_securityKey (make : UInt8 → Bytes → Bytes → Keypair) : Reads
    (do return make (← Wire.byte) (← Wire.bytes) (← Wire.bytes) : KeyDecoder Keypair)
    fun pair taken => ∃ flags handle reserved, pair = make flags handle reserved ∧
      handle.length ≤ Wire.maxLength ∧ reserved.length ≤ Wire.maxLength ∧
      taken = [flags] ++ Wire.putBytes handle ++ Wire.putBytes reserved := by
  refine ((Wire.reads_byte.mapError FormatError.wire).bind fun flags =>
    (Wire.reads_bytes.mapError FormatError.wire).bind fun handle =>
      (Wire.reads_bytes.mapError FormatError.wire).bind fun reserved =>
        reads_pure (make flags handle reserved)).congr ?_
  intro pair taken
  constructor
  · rintro ⟨flags, _, _, rfl, ⟨handle, _, _, ⟨handleFits, rfl⟩, ⟨reserved, _, _,
      ⟨reservedFits, rfl⟩, ⟨rfl, rfl⟩, rfl⟩, rfl⟩, rfl⟩
    exact ⟨flags, handle, reserved, rfl, handleFits, reservedFits, by simp⟩
  · rintro ⟨flags, handle, reserved, rfl, handleFits, reservedFits, rfl⟩
    exact ⟨flags, _, _, rfl, ⟨handle, _, _, ⟨handleFits, rfl⟩, ⟨reserved, _, [],
      ⟨reservedFits, rfl⟩, ⟨rfl, rfl⟩, rfl⟩, rfl⟩, by simp⟩

def SkEcdsaEnding (found : PublicKey) (pair : Keypair) (taken : Bytes) : Prop :=
  ∃ point application flags handle reserved, found = .skEcdsa point application ∧
    pair = .skEcdsa point application flags handle reserved ∧
    handle.length ≤ Wire.maxLength ∧ reserved.length ≤ Wire.maxLength ∧
    taken = [flags] ++ Wire.putBytes handle ++ Wire.putBytes reserved

theorem reads_skEcdsa : Reads (decodeFields .skEcdsa) (FieldsOf .skEcdsa) := by
  refine (PublicKey.reads_decodeSkEcdsa.bindFound
    fun key front found => (?_ : Reads _ (SkEcdsaEnding key))).congr ?_
  · obtain ⟨point, application, rfl, _, _⟩ := found
    refine (reads_securityKey (Keypair.skEcdsa point application)).congr ?_
    intro pair taken
    constructor
    · rintro ⟨flags, handle, reserved, rfl, fits⟩
      exact ⟨point, application, flags, handle, reserved, rfl, rfl, fits⟩
    · rintro ⟨_, _, flags, handle, reserved, same, rfl, fits⟩
      obtain ⟨rfl, rfl⟩ := PublicKey.skEcdsa.inj same
      exact ⟨flags, handle, reserved, rfl, fits⟩
  · intro pair taken
    constructor
    · rintro ⟨_, _, _, ⟨_, _, _, wellFormed, rfl⟩, ⟨point, application, flags, handle, reserved, rfl,
        rfl, handleFits, reservedFits, rfl⟩, rfl⟩
      exact ⟨⟨wellFormed, handleFits, reservedFits⟩, rfl,
        by simp [FieldsForm, encodeFields, PublicKey.encodeFields]⟩
    · rintro ⟨wellFormed, same, form⟩
      cases pair <;> simp [algorithm, publicKey, PublicKey.algorithm, Algorithm.plain] at same
      rename_i point application flags handle reserved
      obtain ⟨keyGood, handleFits, reservedFits⟩ := wellFormed
      exact ⟨.skEcdsa point application, _, _, ⟨point, application, rfl, keyGood, rfl⟩,
        ⟨point, application, flags, handle, reserved, rfl, rfl, handleFits, reservedFits, rfl⟩,
        by simpa [FieldsForm, encodeFields, PublicKey.encodeFields] using form⟩

theorem reads_skEd25519 : Reads (decodeFields .skEd25519) (FieldsOf .skEd25519) := by
  refine (((Wire.reads_array 32).mapError FormatError.wire).bind fun key =>
    (Wire.reads_text.mapError FormatError.wire).bind fun application =>
      reads_securityKey (Keypair.skEd25519 key application)).congr ?_
  intro pair taken
  constructor
  · rintro ⟨key, _, _, ⟨count, size, enough, fits, rfl⟩, ⟨application, _, _, ⟨short, rfl⟩,
      ⟨flags, handle, reserved, rfl, handleFits, reservedFits, rfl⟩, rfl⟩, rfl⟩
    exact ⟨⟨⟨size, short⟩, handleFits, reservedFits⟩, rfl, count, enough, fits, by simp⟩
  · rintro ⟨wellFormed, same, form⟩
    cases pair <;> simp [algorithm, publicKey, PublicKey.algorithm, Algorithm.plain] at same
    rename_i key application flags handle reserved
    obtain ⟨⟨size, short⟩, handleFits, reservedFits⟩ := wellFormed
    obtain ⟨count, enough, fits, rfl⟩ := form
    exact ⟨key, _, _, ⟨count, size, enough, fits, rfl⟩, ⟨application, _, _, ⟨short, rfl⟩,
      ⟨flags, handle, reserved, rfl, handleFits, reservedFits, rfl⟩, rfl⟩, by simp⟩

theorem reads_other {name : String} (labelled : (Algorithm.other name).Labelled) :
    Reads (decodeFields (.other name)) (FieldsOf (.other name)) := by
  refine ((Wire.reads_bytes.mapError FormatError.wire).bind fun publicData =>
    (Wire.reads_bytes.mapError FormatError.wire).bind fun privateData =>
      reads_pure (Keypair.other name publicData privateData)).congr ?_
  intro pair taken
  constructor
  · rintro ⟨publicData, _, _, ⟨publicFits, rfl⟩, ⟨privateData, _, _, ⟨privateFits, rfl⟩,
      ⟨rfl, rfl⟩, rfl⟩, rfl⟩
    exact ⟨⟨⟨labelled.1, labelled.2, publicFits⟩, privateFits⟩, rfl,
      by simp [FieldsForm, encodeFields]⟩
  · rintro ⟨wellFormed, same, form⟩
    cases pair <;> simp [algorithm, publicKey, PublicKey.algorithm, Algorithm.plain] at same
    subst same
    exact ⟨_, _, _, ⟨wellFormed.1.2.2, rfl⟩, ⟨_, _, [], ⟨wellFormed.2, rfl⟩, ⟨rfl, rfl⟩, rfl⟩,
      by simpa [FieldsForm, encodeFields] using form⟩

theorem reads_decodeFields {algorithm : Algorithm} (labelled : algorithm.Labelled) :
    Reads (decodeFields algorithm) (FieldsOf algorithm) := by
  cases algorithm with
  | dsa => exact reads_dsa
  | ecdsa curve => exact reads_ecdsa curve
  | ed25519 => exact reads_ed25519
  | rsa hash => exact reads_rsa hash
  | skEcdsa => exact reads_skEcdsa
  | skEd25519 => exact reads_skEd25519
  | other name => exact reads_other labelled

theorem WellFormed.publicKey {pair : Keypair} (wellFormed : pair.WellFormed) :
    pair.publicKey.WellFormed := by
  cases pair with
  | rsa n e d inverse p q =>
    have n := wellFormed n (by simp)
    have e := wellFormed e (by simp)
    exact ⟨e.1, n.1, e.2, n.2⟩
  | dsa | ecdsa | ed25519 | skEcdsa | skEd25519 | other => exact wellFormed.1

theorem reads_decode : Reads decode fun pair taken => pair.WellFormed ∧ pair.WireForm taken := by
  refine ((Algorithm.reads_decode.mapError FormatError.wire).bindFound
    fun algorithm _ labelled => reads_decodeFields labelled.1).congr ?_
  intro pair taken
  constructor
  · rintro ⟨algorithm, _, fields, ⟨_, rfl⟩, ⟨wellFormed, same, form⟩, rfl⟩
    exact ⟨wellFormed, algorithm, fields, same.symm, form, rfl⟩
  · rintro ⟨wellFormed, algorithm, fields, same, form, rfl⟩
    exact ⟨algorithm, _, fields, ⟨wellFormed.publicKey.labelled same, rfl⟩,
      ⟨wellFormed, same.symm, form⟩, rfl⟩

/-- The first bit of the scalar is set, so it is written with a zero byte in front. -/
def IsHigh : Keypair → Prop
  | .ecdsa _ _ (first :: _) => first ≥ 0x80
  | _ => False

theorem scalarForm_encode {curve : Curve} {scalar : Bytes}
    (size : scalar.length = curve.fieldSize) : ScalarForm curve scalar (encodeScalar scalar) := by
  have field := curve.fieldSize_le
  have plain : ScalarForm curve scalar (Wire.putBytes scalar) := by
    refine ⟨size, .inr ⟨curve.fieldSize, Nat.le_refl _, by omega, ?_, by rw [Wire.putBytes, size]⟩⟩
    simp only [Wire.maxLength]
    omega
  cases scalar with
  | nil => exact plain
  | cons first rest =>
    by_cases high : first ≥ 0x80
    · exact ⟨size, .inl (by simp only [encodeScalar, if_pos high])⟩
    · simpa only [encodeScalar, if_neg high] using plain

theorem WellFormed.fieldsForm {pair : Keypair} (wellFormed : pair.WellFormed) :
    pair.FieldsForm pair.encodeFields := by
  have enough : 64 ≤ Wire.maxLength := by decide
  cases pair with
  | ecdsa curve point scalar =>
    exact ⟨encodeScalar scalar, scalarForm_encode wellFormed.2, rfl⟩
  | ed25519 key seed =>
    have size : key.length = 32 := wellFormed.1
    have front : seed.length = 32 := wellFormed.2.1
    refine ⟨32, 64, Nat.le_refl 32, by omega, Nat.le_refl 64, enough, ?_⟩
    simp [encodeFields, Wire.putBytes, size, front]
  | skEd25519 key application flags handle reserved =>
    have size : key.length = 32 := wellFormed.1.1
    refine ⟨32, Nat.le_refl 32, by omega, ?_⟩
    simp [encodeFields, Wire.putBytes, size]
  | dsa | rsa | skEcdsa | other => rfl

theorem WellFormed.wireForm_encode {pair : Keypair} (wellFormed : pair.WellFormed) :
    pair.WireForm pair.encode :=
  ⟨pair.algorithm, pair.encodeFields, pair.publicKey.plain_algorithm, wellFormed.fieldsForm, rfl⟩

theorem length_encodeScalar_le {curve : Curve} {scalar taken : Bytes}
    (form : ScalarForm curve scalar taken) :
    (encodeScalar scalar).length ≤ taken.length + 1 ∧
      (¬(∃ first rest, scalar = first :: rest ∧ first ≥ 0x80) →
        (encodeScalar scalar).length ≤ taken.length) := by
  -- A scalar may be read without the zero byte that is always written before a high one.
  obtain ⟨_, read⟩ := form
  have long : scalar.length + 4 ≤ taken.length := by
    rcases read with rfl | ⟨count, _, _, _, rfl⟩
    · simp only [Wire.length_putBytes, List.length_cons]
      omega
    · simp only [List.length_append, Wire.length_putWord32]
      omega
  cases scalar with
  | nil =>
    simp only [encodeScalar, Wire.length_putBytes, List.length_nil] at long ⊢
    omega
  | cons first rest =>
    by_cases high : first ≥ 0x80
    · simp only [encodeScalar, if_pos high, Wire.length_putBytes, List.length_cons] at long ⊢
      exact ⟨by omega, fun low => absurd ⟨first, rest, rfl, high⟩ low⟩
    · simp only [encodeScalar, if_neg high, Wire.length_putBytes] at long ⊢
      omega

theorem length_encodeFields_le {pair : Keypair} {fields : Bytes} (form : pair.FieldsForm fields) :
    pair.encodeFields.length ≤ fields.length + 1 ∧
      (¬pair.IsHigh → pair.encodeFields.length ≤ fields.length) := by
  cases pair with
  | ecdsa curve point scalar =>
    obtain ⟨written, scalarForm, rfl⟩ := form
    obtain ⟨longer, low⟩ := length_encodeScalar_le scalarForm
    simp only [encodeFields, List.length_append]
    refine ⟨by omega, fun notHigh => ?_⟩
    have short := low (by
      rintro ⟨first, rest, rfl, high⟩
      exact notHigh high)
    omega
  | ed25519 key seed =>
    obtain ⟨count, both, _, _, _, _, rfl⟩ := form
    simp only [encodeFields, List.length_append, Wire.length_putBytes, Wire.length_putWord32]
    omega
  | skEd25519 key application flags handle reserved =>
    obtain ⟨count, _, _, rfl⟩ := form
    simp only [encodeFields, List.length_append, Wire.length_putBytes, Wire.length_putWord32]
    omega
  | dsa | rsa | skEcdsa | other =>
    obtain rfl := form
    omega

theorem WireForm.length_encode_le {pair : Keypair} {taken : Bytes} (form : pair.WireForm taken) :
    pair.encode.length ≤ taken.length + 1 ∧
      (¬pair.IsHigh → pair.encode.length ≤ taken.length) := by
  obtain ⟨algorithm, fields, same, fieldsForm, rfl⟩ := form
  have labels := algorithm.length_encode_plain_le
  obtain ⟨longer, low⟩ := length_encodeFields_le fieldsForm
  simp only [encode, ← same, List.length_append]
  refine ⟨by omega, fun notHigh => ?_⟩
  have short := low notHigh
  omega

end Keypair

end SoleKey
