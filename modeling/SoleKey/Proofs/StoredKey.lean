import SoleKey.Proofs.PublicKey
import SoleKey.StoredKey

set_option autoImplicit false

namespace SoleKey

open Decoder

namespace PublicKey

theorem value_encode {key : PublicKey} (wellFormed : key.WellFormed) :
    decode.value key.encode = .ok key := by
  simp [Decoder.value, run_decode_encode wellFormed, Except.map]

theorem wellFormed_of_value {blob : Bytes} {key : PublicKey}
    (found : decode.value blob = .ok key) : key.WellFormed := by
  obtain ⟨_, _, ⟨wellFormed, _⟩, _⟩ := reads_decode.value.1 found
  exact wellFormed

end PublicKey

namespace StoredKey

-- Bytes may follow the key inside the blob.
def PartsForm (key : StoredKey) (taken : Bytes) : Prop :=
  ∃ blob : Bytes, PublicKey.decode.value blob = .ok key.publicKey ∧
    blob.length ≤ Wire.maxLength ∧ (Text.encode key.comment).length ≤ Wire.maxLength ∧
    key.sealedPart.length ≤ Wire.maxLength ∧
    taken = Wire.putBytes blob ++ Wire.putText key.comment ++ Wire.putBytes key.sealedPart

def FieldsForm (key : StoredKey) (taken : Bytes) : Prop :=
  ∃ parts, key.PartsForm parts ∧ taken = Wire.putText header ++ parts

theorem reads_parts : Reads
    (do
      let blob ← Wire.bytes.mapError .wire
      let publicKey ← Decoder.ofExcept ((PublicKey.decode.value blob).mapError .publicKey)
      let comment ← Wire.text.mapError .wire
      let sealedPart ← Wire.bytes.mapError .wire
      return ⟨publicKey, comment, sealedPart⟩ : Decoder RecordError StoredKey)
    PartsForm := by
  refine ((Wire.reads_bytes.mapError RecordError.wire).bind fun blob =>
    (reads_ofExcept ((PublicKey.decode.value blob).mapError RecordError.publicKey)).bind
      fun publicKey => (Wire.reads_text.mapError RecordError.wire).bind fun comment =>
        (Wire.reads_bytes.mapError RecordError.wire).bind fun sealedPart =>
          reads_pure (⟨publicKey, comment, sealedPart⟩ : StoredKey)).congr ?_
  intro key taken
  constructor
  · rintro ⟨blob, _, _, ⟨blobFits, rfl⟩, ⟨publicKey, _, _, ⟨decoded, rfl⟩, ⟨comment, _, _,
      ⟨commentFits, rfl⟩, ⟨sealedPart, _, _, ⟨sealedFits, rfl⟩, ⟨rfl, rfl⟩, rfl⟩, rfl⟩, rfl⟩, rfl⟩
    exact ⟨blob, mapError_eq_ok_iff.1 decoded, blobFits, commentFits, sealedFits, by simp⟩
  · rintro ⟨blob, decoded, blobFits, commentFits, sealedFits, rfl⟩
    exact ⟨blob, _, _, ⟨blobFits, rfl⟩, ⟨key.publicKey, _, _, ⟨mapError_eq_ok_iff.2 decoded, rfl⟩,
      ⟨key.comment, _, _, ⟨commentFits, rfl⟩, ⟨key.sealedPart, _, [], ⟨sealedFits, rfl⟩,
        ⟨rfl, rfl⟩, rfl⟩, rfl⟩, rfl⟩, by simp⟩

theorem reads_decodeFields : Reads decodeFields FieldsForm := by
  have headerFits : (Text.encode header).length ≤ Wire.maxLength := by decide
  refine ((Wire.reads_text.mapError RecordError.wire).bind fun found =>
    reads_parts.guard (found ≠ header) (reads_throw_bind (.header found) _)).congr ?_
  intro key taken
  constructor
  · rintro ⟨found, _, parts, ⟨_, rfl⟩, ⟨same, form⟩, rfl⟩
    obtain rfl : found = header := by simpa using same
    exact ⟨parts, form, rfl⟩
  · rintro ⟨parts, form, rfl⟩
    exact ⟨header, _, parts, ⟨headerFits, rfl⟩, ⟨by simp, form⟩, rfl⟩

theorem decode_eq_ok_iff {input : Bytes} {key : StoredKey} :
    decode input = .ok key ↔ key.FieldsForm input :=
  reads_decodeFields.whole fun rest => .trailingData rest.length

theorem wellFormed_of_decode {content : Bytes} {key : StoredKey}
    (found : decode content = .ok key) : key.publicKey.WellFormed := by
  obtain ⟨_, ⟨blob, decoded, _⟩, _⟩ := decode_eq_ok_iff.1 found
  exact PublicKey.wellFormed_of_value decoded

theorem encode_eq_flatMap (key : StoredKey) :
    key.encode =
      [Text.encode header, key.publicKey.encode, Text.encode key.comment, key.sealedPart].flatMap
        Wire.putBytes := by
  simp [encode, Wire.putText]

theorem write_eq_ok {key : StoredKey} (small : key.encode.length < UInt32.size) :
    key.write = .ok key.encode := by
  have short (content : Bytes) (there : content ∈ [Text.encode header, key.publicKey.encode,
      Text.encode key.comment, key.sealedPart]) : content.length < UInt32.size := by
    have bound := Wire.length_le_of_mem there
    rw [← encode_eq_flatMap] at bound
    omega
  have blob : Wire.putStrings key.publicKey.strings = .ok key.publicKey.encode := by
    rw [PublicKey.encode_eq_flatMap]
    refine Wire.putStrings_eq_ok fun content there => ?_
    have bound := Wire.length_le_of_mem there
    rw [← PublicKey.encode_eq_flatMap] at bound
    have fits := short key.publicKey.encode (by simp)
    omega
  have whole := Wire.putStrings_eq_ok short
  rw [← encode_eq_flatMap] at whole
  simp [write, blob, whole, Except.mapError, Bind.bind, Except.bind]

theorem decode_encode {key : StoredKey} (wellFormed : key.publicKey.WellFormed)
    (blobFits : key.publicKey.encode.length ≤ Wire.maxLength)
    (commentFits : (Text.encode key.comment).length ≤ Wire.maxLength)
    (sealedFits : key.sealedPart.length ≤ Wire.maxLength) : decode key.encode = .ok key := by
  have decoded := PublicKey.value_encode wellFormed
  refine decode_eq_ok_iff.2 ⟨_, ⟨key.publicKey.encode, decoded, blobFits, commentFits, sealedFits,
    rfl⟩, ?_⟩
  simp [encode]

end StoredKey

end SoleKey
