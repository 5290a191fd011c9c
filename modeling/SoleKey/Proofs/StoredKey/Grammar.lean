import SoleKey.Proofs.StoredKey

set_option autoImplicit false

namespace SoleKey

theorem PublicKey.run_decode_append_iff {key : PublicKey} {encoding rest : Bytes} :
    decode.run (encoding ++ rest) = .ok (key, rest) ↔ key.WellFormed ∧ key.WireForm encoding := by
  rw [reads_decode]
  constructor
  · rintro ⟨taken, form, same⟩
    exact List.append_cancel_right same ▸ form
  · intro form
    exact ⟨encoding, form, rfl⟩

namespace StoredKey

/-- What a record is made of, beside its header. The encoding of the key may be followed by more. -/
structure Parts where
  encoding : Bytes
  extra : Bytes
  comment : Bytes
  sealedPart : Bytes

def Parts.blob (parts : Parts) : Bytes :=
  parts.encoding ++ parts.extra

def Parts.strings (parts : Parts) : List Bytes :=
  [Text.encode header, parts.blob, parts.comment, parts.sealedPart]

structure Parts.Spell (parts : Parts) (key : StoredKey) (input : Bytes) : Prop where
  written : input = parts.strings.flatMap Wire.putBytes
  short : ∀ content ∈ parts.strings, content.length ≤ Wire.maxLength
  publicKey : key.publicKey.WellFormed ∧ key.publicKey.WireForm parts.encoding
  comment : Text.decode? parts.comment = some key.comment
  sealedPart : parts.sealedPart = key.sealedPart

def IsRecord (key : StoredKey) (input : Bytes) : Prop :=
  ∃ parts : Parts, parts.Spell key input

variable {input : Bytes} {key other : StoredKey}

theorem fieldsForm_iff_isRecord : key.FieldsForm input ↔ key.IsRecord input := by
  constructor
  · rintro ⟨_, ⟨blob, decoded, blobFits, commentFits, sealedFits, rfl⟩, rfl⟩
    obtain ⟨encoding, extra, form, rfl⟩ := PublicKey.reads_decode.value.1 decoded
    have headerFits : (Text.encode header).length ≤ Wire.maxLength := by decide
    refine ⟨⟨encoding, extra, Text.encode key.comment, key.sealedPart⟩, ?_⟩
    exact
      { written := by simp [Parts.strings, Parts.blob, Wire.putText]
        short := by
          simp only [Parts.strings, List.forall_mem_cons]
          exact ⟨headerFits, blobFits, commentFits, sealedFits, by simp⟩
        publicKey := form
        comment := Text.decode?_encode key.comment
        sealedPart := rfl }
  · rintro ⟨⟨encoding, extra, comment, sealedPart⟩, written, short, form, text, same⟩
    obtain rfl : sealedPart = key.sealedPart := same
    obtain rfl : comment = Text.encode key.comment := Text.decode?_eq_some_iff.1 text
    have decoded : PublicKey.decode.value (encoding ++ extra) = .ok key.publicKey :=
      PublicKey.reads_decode.value.2 ⟨encoding, extra, form, rfl⟩
    simp only [Parts.strings, Parts.blob, List.forall_mem_cons] at short
    obtain ⟨_, blobFits, commentFits, sealedFits, _⟩ := short
    refine ⟨_, ⟨encoding ++ extra, decoded, blobFits, commentFits, sealedFits, rfl⟩, ?_⟩
    simpa [Parts.strings, Parts.blob, Wire.putText] using written

theorem decode_eq_ok_iff_isRecord : decode input = .ok key ↔ key.IsRecord input :=
  decode_eq_ok_iff.trans fieldsForm_iff_isRecord

theorem decode_eq_ok_iff_run :
    decode input = .ok key ↔ decodeFields.run input = .ok (key, []) := by
  rw [decode_eq_ok_iff, reads_decodeFields]
  simp

theorem IsRecord.unique (isRecord : key.IsRecord input) (again : other.IsRecord input) :
    key = other := by
  have decoded := decode_eq_ok_iff_isRecord.2 isRecord
  rw [decode_eq_ok_iff_isRecord.2 again] at decoded
  exact (Except.ok.inj decoded).symm

/-- How a byte string is told to be the record of a key. -/
structure AcceptsRecords (input : Bytes) (key : StoredKey) : Prop where
  accepted : decode input = .ok key ↔ key.IsRecord input
  consumed : decode input = .ok key ↔ decodeFields.run input = .ok (key, [])
  unique : ∀ other, key.IsRecord input → other.IsRecord input → key = other
  keyRead : ∀ (publicKey : PublicKey) (encoding rest : Bytes),
    PublicKey.decode.run (encoding ++ rest) = .ok (publicKey, rest) ↔
      publicKey.WellFormed ∧ publicKey.WireForm encoding

theorem accepts_exactly_records (input : Bytes) (key : StoredKey) : AcceptsRecords input key where
  accepted := decode_eq_ok_iff_isRecord
  consumed := decode_eq_ok_iff_run
  unique := fun _ isRecord again => isRecord.unique again
  keyRead := fun _ _ _ => PublicKey.run_decode_append_iff

end StoredKey

end SoleKey
