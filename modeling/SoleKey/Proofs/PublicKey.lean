import SoleKey.Proofs.Wire
import SoleKey.PublicKey

set_option autoImplicit false

namespace SoleKey

open Decoder

theorem Curve.ofName?_eq_some_iff {name : String} {curve : Curve} :
    Curve.ofName? name = some curve ↔ name = curve.name := by
  constructor
  · intro found
    unfold Curve.ofName? at found
    split at found <;> simp_all [Curve.name]
    all_goals subst found; rfl
  · rintro rfl
    exact Curve.ofName?_name curve

namespace Algorithm

/-- The algorithm that a key of this kind is written with. -/
def plain : Algorithm → Algorithm
  | .rsa _ => .rsa none
  | single => single

/-- Names of other algorithms are read only if they have the right form and length. -/
def Labelled : Algorithm → Prop
  | .other name => ofName? name = some (.other name) ∧ (Text.encode name).length ≤ Wire.maxLabel
  | _ => True

theorem name_of_ofName? {name : String} {algorithm : Algorithm}
    (found : ofName? name = some algorithm) : name = algorithm.name := by
  unfold ofName? at found
  split at found
  all_goals try
    obtain rfl := Option.some.inj found
    rfl
  split at found
  · obtain rfl := Option.some.inj found
    rfl
  · simp at found

theorem ofName?_name {algorithm : Algorithm} (labelled : algorithm.Labelled) :
    ofName? algorithm.name = some algorithm ∧
      (Text.encode algorithm.name).length ≤ Wire.maxLabel := by
  cases algorithm with
  | other name => exact labelled
  | ecdsa curve => cases curve <;> exact ⟨rfl, by decide⟩
  | rsa hash => rcases hash with _ | _ | _ <;> exact ⟨rfl, by decide⟩
  | dsa | ed25519 | skEcdsa | skEd25519 => exact ⟨rfl, by decide⟩

theorem labelled_of_ofName? {name : String} {algorithm : Algorithm}
    (found : ofName? name = some algorithm) (short : (Text.encode name).length ≤ Wire.maxLabel) :
    algorithm.Labelled := by
  cases algorithm with
  | other given =>
    obtain rfl : name = given := name_of_ofName? found
    exact ⟨found, short⟩
  | dsa | ecdsa | ed25519 | rsa | skEcdsa | skEd25519 => trivial

theorem reads_decode : Reads decode fun value taken =>
    value.Labelled ∧ taken = value.encode := by
  refine (Wire.reads_label ofName?).congr ?_
  intro value taken
  constructor
  · rintro ⟨name, found, short, rfl⟩
    refine ⟨labelled_of_ofName? found short, ?_⟩
    rw [name_of_ofName? found, encode]
  · rintro ⟨labelled, rfl⟩
    obtain ⟨found, short⟩ := ofName?_name labelled
    exact ⟨value.name, found, short, rfl⟩

theorem length_encode_plain_le (algorithm : Algorithm) :
    algorithm.plain.encode.length ≤ algorithm.encode.length := by
  cases algorithm with
  | rsa hash => rcases hash with _ | _ | _ <;> decide
  | dsa | ecdsa | ed25519 | skEcdsa | skEd25519 | other => exact Nat.le_refl _

end Algorithm

theorem Mpint.reads_decode : Reads Mpint.decode fun value taken =>
    Mpint.isCanonical value = true ∧ value.length ≤ Wire.maxLength ∧ taken = Mpint.encode value := by
  refine ((Wire.reads_bytes.mapError .wire).bind fun content =>
    reads_check content (Mpint.isCanonical content = true) FormatError.encoding).congr ?_
  intro value taken
  constructor
  · rintro ⟨_, _, _, ⟨fits, rfl⟩, ⟨canonical, rfl, rfl⟩, rfl⟩
    exact ⟨canonical, fits, by simp [Mpint.encode]⟩
  · rintro ⟨canonical, fits, rfl⟩
    exact ⟨value, _, [], ⟨fits, rfl⟩, ⟨canonical, rfl, rfl⟩, by simp [Mpint.encode]⟩

theorem fieldSize_of_ofFieldSize? {size : Nat} {curve : Curve}
    (found : Curve.ofFieldSize? size = some curve) : size = curve.fieldSize := by
  unfold Curve.ofFieldSize? at found
  split at found <;> simp at found <;> subst found <;> rfl

theorem Curve.fieldSize_le (curve : Curve) : curve.fieldSize ≤ 66 := by
  cases curve <;> decide

theorem pointCurve_length {point : Bytes} {curve : Curve} (found : pointCurve point = .ok curve) :
    point.length ≤ 133 := by
  unfold pointCurve at found
  split at found
  · simp at found
  · rename_i tag rest
    have bound := Curve.fieldSize_le
    split at found
    · split at found
      · rename_i other sized
        have size := fieldSize_of_ofFieldSize? sized
        have fits := bound other
        simp only [List.length_cons]
        omega
      · simp at found
    · split at found
      · split at found
        · rename_i other sized
          split at found
          · rename_i whole
            have fits := bound other
            simp only [List.length_cons]
            omega
          · simp at found
        · simp at found
      · split at found <;> simp at found

namespace PublicKey

/-- The fields of a key as they are read: as they are written, but for the length of an array. -/
def FieldsForm : PublicKey → Bytes → Prop
  | .ed25519 key, taken => ∃ count, 32 ≤ count ∧ count ≤ Wire.maxLength ∧
      taken = Wire.putWord32 count ++ key
  | .skEd25519 key application, taken => ∃ count, 32 ≤ count ∧ count ≤ Wire.maxLength ∧
      taken = Wire.putWord32 count ++ key ++ Wire.putText application
  | key, taken => taken = key.encodeFields

def WireForm (key : PublicKey) (taken : Bytes) : Prop :=
  ∃ (algorithm : Algorithm) (fields : Bytes), algorithm.plain = key.algorithm ∧ key.FieldsForm fields ∧
    taken = algorithm.encode ++ fields

theorem reads_curve : Reads (Wire.label Curve.ofName?) fun value taken =>
    taken = Wire.putText value.name := by
  refine (Wire.reads_label Curve.ofName?).congr ?_
  intro value taken
  have short : (Text.encode value.name).length ≤ Wire.maxLabel := by cases value <;> decide
  simp only [Curve.ofName?_eq_some_iff]
  constructor
  · rintro ⟨_, rfl, _, rfl⟩
    rfl
  · rintro rfl
    exact ⟨value.name, rfl, short, rfl⟩

theorem reads_decodePoint : Reads decodePoint fun value taken =>
    pointCurve value.2 = .ok value.1 ∧
      taken = Wire.putText value.1.name ++ Wire.putBytes value.2 := by
  refine ((reads_curve.mapError .wire).bind fun curve =>
    ((Wire.reads_bounded 133).mapError .wire).bind fun point =>
      (reads_ofExcept (pointCurve point)).bind fun found =>
        reads_check (curve, point) (found = curve) FormatError.unknownAlgorithm).congr ?_
  rintro ⟨curve, point⟩ taken
  have fits : 133 ≤ Wire.maxLength := by decide
  constructor
  · rintro ⟨_, _, _, rfl, ⟨_, _, _, ⟨short, _, rfl⟩, ⟨_, _, _, ⟨onCurve, rfl⟩,
      ⟨rfl, same, rfl⟩, rfl⟩, rfl⟩, rfl⟩
    obtain ⟨rfl, rfl⟩ := Prod.mk.inj same
    exact ⟨onCurve, by simp⟩
  · rintro ⟨onCurve, rfl⟩
    have short := pointCurve_length onCurve
    exact ⟨curve, _, _, rfl, ⟨point, _, [], ⟨short, Nat.le_trans short fits, rfl⟩,
      ⟨curve, [], [], ⟨onCurve, rfl⟩, ⟨rfl, rfl, rfl⟩, rfl⟩, rfl⟩, by simp⟩

theorem reads_decodeEcdsa (curve : Curve) : Reads (decodeEcdsa curve) fun value taken =>
    ∃ point, value = .ecdsa curve point ∧ pointCurve point = .ok curve ∧
      taken = value.encodeFields := by
  refine (reads_decodePoint.bind fun found => reads_check (PublicKey.ecdsa curve found.2)
    (found.1 = curve) FormatError.unknownAlgorithm).congr ?_
  intro value taken
  constructor
  · rintro ⟨⟨found, point⟩, _, _, ⟨onCurve, rfl⟩, ⟨rfl, rfl, rfl⟩, rfl⟩
    exact ⟨point, rfl, onCurve, by simp [encodeFields]⟩
  · rintro ⟨point, rfl, onCurve, rfl⟩
    exact ⟨(curve, point), _, [], ⟨onCurve, rfl⟩, ⟨rfl, rfl, rfl⟩, by simp [encodeFields]⟩

theorem isSecurityKeyPoint_length {point : Bytes} (good : isSecurityKeyPoint point = true) :
    point.length ≤ 65 := by
  cases point with
  | nil => simp
  | cons tag rest =>
    simp only [isSecurityKeyPoint] at good
    split at good
    · simp at good
      simp [good]
    · split at good
      · simp at good
        simp [good]
      · simp at good
        simp [good.2]

theorem reads_decodeSkEcdsa : Reads decodeSkEcdsa fun value taken =>
    ∃ point application, value = .skEcdsa point application ∧ value.WellFormed ∧
      taken = value.encodeFields := by
  have fields (point : Bytes) : Reads
      (do return .skEcdsa point (← Wire.text) : KeyDecoder PublicKey)
      fun value taken => ∃ application, value = .skEcdsa point application ∧
        (Text.encode application).length ≤ Wire.maxLength ∧ taken = Wire.putText application := by
    refine ((Wire.reads_text.mapError FormatError.wire).bind fun application =>
      reads_pure (PublicKey.skEcdsa point application)).congr ?_
    intro value taken
    constructor
    · rintro ⟨application, _, _, ⟨fits, rfl⟩, ⟨rfl, rfl⟩, rfl⟩
      exact ⟨application, rfl, fits, by simp⟩
    · rintro ⟨application, rfl, fits, rfl⟩
      exact ⟨application, _, [], ⟨fits, rfl⟩, ⟨rfl, rfl⟩, by simp⟩
  refine ((reads_curve.mapError FormatError.wire).bind fun curve => Reads.guard
    (((Wire.reads_bounded 65).mapError FormatError.wire).bind fun point =>
      (fields point).guard ((!isSecurityKeyPoint point) = true)
        (reads_throw_bind .curvePoint _))
    ((curve != Curve.p256) = true) (reads_throw_bind .cryptographic _)).congr ?_
  have fits : 65 ≤ Wire.maxLength := by decide
  intro value taken
  constructor
  · rintro ⟨curve, _, _, rfl, ⟨right, point, _, _, ⟨_, _, rfl⟩, ⟨good, application, rfl, short, rfl⟩,
      rfl⟩, rfl⟩
    obtain rfl : curve = .p256 := by simpa using right
    exact ⟨point, application, rfl, ⟨by simpa using good, short⟩, by simp [encodeFields]⟩
  · rintro ⟨point, application, rfl, ⟨good, short⟩, rfl⟩
    have size := isSecurityKeyPoint_length good
    exact ⟨.p256, _, _, rfl, ⟨by simp, point, _, _, ⟨size, Nat.le_trans size fits, rfl⟩,
      ⟨by simpa using good, application, rfl, short, rfl⟩, rfl⟩, by simp [encodeFields]⟩

def FieldsOf (algorithm : Algorithm) (key : PublicKey) (taken : Bytes) : Prop :=
  key.WellFormed ∧ key.algorithm = algorithm.plain ∧ key.FieldsForm taken

theorem reads_dsa : Reads (decodeFields .dsa) (FieldsOf .dsa) := by
  refine (Mpint.reads_decode.bind fun p => Mpint.reads_decode.bind fun q =>
    Mpint.reads_decode.bind fun g => Mpint.reads_decode.bind fun y =>
      reads_pure (PublicKey.dsa p q g y)).congr ?_
  intro value taken
  constructor
  · rintro ⟨p, _, _, ⟨pGood, pFits, rfl⟩, ⟨q, _, _, ⟨qGood, qFits, rfl⟩, ⟨g, _, _,
      ⟨gGood, gFits, rfl⟩, ⟨y, _, _, ⟨yGood, yFits, rfl⟩, ⟨rfl, rfl⟩, rfl⟩, rfl⟩, rfl⟩, rfl⟩
    exact ⟨⟨pGood, qGood, gGood, yGood, pFits, qFits, gFits, yFits⟩, rfl,
      by simp [FieldsForm, encodeFields]⟩
  · rintro ⟨wellFormed, same, form⟩
    cases value <;> simp [algorithm, Algorithm.plain] at same
    rename_i p q g y
    obtain ⟨pGood, qGood, gGood, yGood, pFits, qFits, gFits, yFits⟩ := wellFormed
    exact ⟨p, _, _, ⟨pGood, pFits, rfl⟩, ⟨q, _, _, ⟨qGood, qFits, rfl⟩, ⟨g, _, _,
      ⟨gGood, gFits, rfl⟩, ⟨y, _, [], ⟨yGood, yFits, rfl⟩, ⟨rfl, rfl⟩, rfl⟩, rfl⟩, rfl⟩,
      by simpa [FieldsForm, encodeFields] using form⟩

theorem reads_ecdsa (curve : Curve) :
    Reads (decodeFields (.ecdsa curve)) (FieldsOf (.ecdsa curve)) := by
  refine (reads_decodeEcdsa curve).congr ?_
  intro value taken
  constructor
  · rintro ⟨point, rfl, onCurve, rfl⟩
    exact ⟨onCurve, rfl, rfl⟩
  · rintro ⟨wellFormed, same, form⟩
    cases value <;> simp [algorithm, Algorithm.plain] at same
    subst same
    exact ⟨_, rfl, wellFormed, form⟩

theorem reads_ed25519 : Reads (decodeFields .ed25519) (FieldsOf .ed25519) := by
  refine (((Wire.reads_array 32).mapError FormatError.wire).bind fun key =>
    reads_pure (PublicKey.ed25519 key)).congr ?_
  intro value taken
  constructor
  · rintro ⟨key, _, _, ⟨count, size, enough, fits, rfl⟩, ⟨rfl, rfl⟩, rfl⟩
    exact ⟨size, rfl, count, enough, fits, by simp⟩
  · rintro ⟨wellFormed, same, form⟩
    cases value <;> simp [algorithm, Algorithm.plain] at same
    obtain ⟨count, enough, fits, rfl⟩ := form
    exact ⟨_, _, [], ⟨count, wellFormed, enough, fits, rfl⟩, ⟨rfl, rfl⟩, by simp⟩

theorem reads_rsa (hash : Option RsaHash) :
    Reads (decodeFields (.rsa hash)) (FieldsOf (.rsa hash)) := by
  refine (Mpint.reads_decode.bind fun e => Mpint.reads_decode.bind fun n =>
    reads_pure (PublicKey.rsa e n)).congr ?_
  intro value taken
  constructor
  · rintro ⟨e, _, _, ⟨eGood, eFits, rfl⟩, ⟨n, _, _, ⟨nGood, nFits, rfl⟩, ⟨rfl, rfl⟩, rfl⟩, rfl⟩
    exact ⟨⟨eGood, nGood, eFits, nFits⟩, rfl, by simp [FieldsForm, encodeFields]⟩
  · rintro ⟨wellFormed, same, form⟩
    cases value <;> simp [algorithm, Algorithm.plain] at same
    rename_i e n
    obtain ⟨eGood, nGood, eFits, nFits⟩ := wellFormed
    exact ⟨e, _, _, ⟨eGood, eFits, rfl⟩, ⟨n, _, [], ⟨nGood, nFits, rfl⟩, ⟨rfl, rfl⟩, rfl⟩,
      by simpa [FieldsForm, encodeFields] using form⟩

theorem reads_skEcdsa : Reads (decodeFields .skEcdsa) (FieldsOf .skEcdsa) := by
  refine reads_decodeSkEcdsa.congr ?_
  intro value taken
  constructor
  · rintro ⟨point, application, rfl, wellFormed, rfl⟩
    exact ⟨wellFormed, rfl, rfl⟩
  · rintro ⟨wellFormed, same, form⟩
    cases value <;> simp [algorithm, Algorithm.plain] at same
    exact ⟨_, _, rfl, wellFormed, form⟩

theorem reads_skEd25519 : Reads (decodeFields .skEd25519) (FieldsOf .skEd25519) := by
  refine (((Wire.reads_array 32).mapError FormatError.wire).bind fun key =>
    (Wire.reads_text.mapError FormatError.wire).bind fun application =>
      reads_pure (PublicKey.skEd25519 key application)).congr ?_
  intro value taken
  constructor
  · rintro ⟨key, _, _, ⟨count, size, enough, fits, rfl⟩, ⟨application, _, _, ⟨short, rfl⟩,
      ⟨rfl, rfl⟩, rfl⟩, rfl⟩
    exact ⟨⟨size, short⟩, rfl, count, enough, fits, by simp⟩
  · rintro ⟨wellFormed, same, form⟩
    cases value <;> simp [algorithm, Algorithm.plain] at same
    obtain ⟨size, short⟩ := wellFormed
    obtain ⟨count, enough, fits, rfl⟩ := form
    exact ⟨_, _, _, ⟨count, size, enough, fits, rfl⟩, ⟨_, _, [], ⟨short, rfl⟩, ⟨rfl, rfl⟩, rfl⟩,
      by simp⟩

theorem reads_other {name : String} (labelled : (Algorithm.other name).Labelled) :
    Reads (decodeFields (.other name)) (FieldsOf (.other name)) := by
  refine ((Wire.reads_bytes.mapError FormatError.wire).bind fun data =>
    reads_pure (PublicKey.other name data)).congr ?_
  intro value taken
  constructor
  · rintro ⟨data, _, _, ⟨fits, rfl⟩, ⟨rfl, rfl⟩, rfl⟩
    exact ⟨⟨labelled.1, labelled.2, fits⟩, rfl, by simp [FieldsForm, encodeFields]⟩
  · rintro ⟨wellFormed, same, form⟩
    cases value <;> simp [algorithm, Algorithm.plain] at same
    subst same
    exact ⟨_, _, [], ⟨wellFormed.2.2, rfl⟩, ⟨rfl, rfl⟩,
      by simpa [FieldsForm, encodeFields] using form⟩

theorem reads_decodeFields {algorithm : Algorithm} (labelled : algorithm.Labelled) :
    Reads (decodeFields algorithm) (FieldsOf algorithm) := by
  cases algorithm with
  | dsa => exact reads_dsa
  | ecdsa curve => exact reads_ecdsa curve
  | ed25519 => exact reads_ed25519
  | rsa hash => exact reads_rsa hash
  | skEcdsa => exact reads_skEcdsa
  | skEd25519 => exact reads_skEd25519
  | other name => exact reads_other labelled

theorem WellFormed.labelled {key : PublicKey} (wellFormed : key.WellFormed)
    {algorithm : Algorithm} (same : algorithm.plain = key.algorithm) : algorithm.Labelled := by
  cases algorithm with
  | other name =>
    cases key <;> simp [PublicKey.algorithm, Algorithm.plain] at same
    subst same
    exact ⟨wellFormed.1, wellFormed.2.1⟩
  | dsa | ecdsa | ed25519 | rsa | skEcdsa | skEd25519 => trivial

theorem reads_decode : Reads decode fun value taken =>
    value.WellFormed ∧ value.WireForm taken := by
  -- Only a name that was read itself can head the fields of a key with a name of its own.
  refine ((Algorithm.reads_decode.mapError FormatError.wire).bindFound
    fun algorithm _ labelled => reads_decodeFields labelled.1).congr ?_
  intro value taken
  constructor
  · rintro ⟨algorithm, _, fields, ⟨_, rfl⟩, ⟨wellFormed, same, form⟩, rfl⟩
    exact ⟨wellFormed, algorithm, fields, same.symm, form, rfl⟩
  · rintro ⟨wellFormed, algorithm, fields, same, form, rfl⟩
    exact ⟨algorithm, _, fields, ⟨wellFormed.labelled same, rfl⟩, ⟨wellFormed, same.symm, form⟩, rfl⟩

theorem WellFormed.fieldsForm {key : PublicKey} (wellFormed : key.WellFormed) :
    key.FieldsForm key.encodeFields := by
  have enough : 32 ≤ Wire.maxLength := by decide
  cases key with
  | ed25519 key =>
    have size : key.length = 32 := wellFormed
    exact ⟨32, Nat.le_refl 32, enough, by simp [encodeFields, Wire.putBytes, size]⟩
  | skEd25519 key application =>
    have size : key.length = 32 := wellFormed.1
    exact ⟨32, Nat.le_refl 32, enough, by simp [encodeFields, Wire.putBytes, size]⟩
  | dsa | ecdsa | rsa | skEcdsa | other => rfl

theorem plain_algorithm (key : PublicKey) : key.algorithm.plain = key.algorithm := by
  cases key <;> rfl

theorem WellFormed.wireForm_encode {key : PublicKey} (wellFormed : key.WellFormed) :
    key.WireForm key.encode :=
  ⟨key.algorithm, key.encodeFields, key.plain_algorithm, wellFormed.fieldsForm, rfl⟩

theorem WireForm.length_encode_le {key : PublicKey} {taken : Bytes} (form : key.WireForm taken) :
    key.encode.length ≤ taken.length := by
  obtain ⟨algorithm, fields, same, fieldsForm, rfl⟩ := form
  have labels := algorithm.length_encode_plain_le
  have fits : key.encodeFields.length ≤ fields.length := by
    cases key with
    | ed25519 array =>
      obtain ⟨count, _, _, rfl⟩ := fieldsForm
      simp [encodeFields, Wire.putBytes]
    | skEd25519 array application =>
      obtain ⟨count, _, _, rfl⟩ := fieldsForm
      simp [encodeFields, Wire.putBytes]
    | dsa | ecdsa | rsa | skEcdsa | other =>
      obtain rfl := fieldsForm
      exact Nat.le_refl _
  simp only [encode, ← same, List.length_append]
  omega

theorem encode_eq_flatMap (key : PublicKey) :
    key.encode = key.strings.flatMap Wire.putBytes := by
  cases key <;> simp [encode, encodeFields, strings, Algorithm.encode, Wire.putText, Mpint.encode]

theorem run_decode_encode {key : PublicKey} (wellFormed : key.WellFormed) :
    decode.run key.encode = .ok (key, []) :=
  (reads_decode _ _ _).2
    ⟨key.encode, ⟨wellFormed, wellFormed.wireForm_encode⟩, (List.append_nil _).symm⟩

theorem encode_inj {key other : PublicKey} (wellFormed : key.WellFormed)
    (wellFormedOther : other.WellFormed) (same : key.encode = other.encode) : key = other := by
  have decoded := run_decode_encode wellFormed
  rw [same, run_decode_encode wellFormedOther] at decoded
  exact (Prod.mk.inj (Except.ok.inj decoded)).1.symm

end PublicKey

end SoleKey
