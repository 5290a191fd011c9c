import SoleKey.Proofs.StoredKey.Grammar

set_option autoImplicit false

namespace SoleKey

open Decoder

theorem Algorithm.run_decode_encode {algorithm : Algorithm} (labelled : algorithm.Labelled)
    (rest : Bytes) : decode.run (algorithm.encode ++ rest) = .ok (algorithm, rest) :=
  (reads_decode _ _ _).2 ⟨algorithm.encode, ⟨labelled, rfl⟩, rfl⟩

namespace PublicKey

def hasArray : PublicKey → Bool
  | .ed25519 _ | .skEd25519 .. => true
  | _ => false

structure IsPlain (key : PublicKey) (encoding : Bytes) : Prop where
  label : ∀ hash, ¬(Algorithm.rsa (some hash)).encode <+: encoding
  arrayLength : key.hasArray = true → key.algorithm.encode ++ Wire.putWord32 32 <+: encoding

variable {key : PublicKey} {encoding fields extra : Bytes}

theorem algorithm_of_starts {algorithm other : Algorithm} (labelled : algorithm.Labelled)
    (labelledOther : other.Labelled) (starts : other.encode <+: algorithm.encode ++ fields) :
    other = algorithm := by
  obtain ⟨rest, same⟩ := starts
  have read := Algorithm.run_decode_encode labelledOther rest
  rw [same, Algorithm.run_decode_encode labelled fields] at read
  exact (Prod.mk.inj (Except.ok.inj read)).1.symm

theorem algorithm_ne_rsa_some (key : PublicKey) (hash : RsaHash) :
    key.algorithm ≠ .rsa (some hash) := by
  cases key <;> simp [algorithm]

theorem WellFormed.isPlain_encode (wellFormed : key.WellFormed) : key.IsPlain key.encode where
  label := by
    intro hash starts
    have labelled := wellFormed.labelled key.plain_algorithm
    have other : (Algorithm.rsa (some hash)).Labelled := trivial
    exact key.algorithm_ne_rsa_some hash (algorithm_of_starts labelled other starts).symm
  arrayLength := by
    intro array
    cases key with
    | ed25519 content =>
      have size : content.length = 32 := wellFormed
      exact ⟨content, by simp [encode, encodeFields, Wire.putBytes, size]⟩
    | skEd25519 content application =>
      have size : content.length = 32 := wellFormed.1
      exact ⟨content ++ Wire.putText application,
        by simp [encode, encodeFields, Wire.putBytes, size]⟩
    | dsa | ecdsa | rsa | skEcdsa | other => simp [hasArray] at array

theorem count_of_starts {label content : Bytes} {count : Nat} (fits : count ≤ Wire.maxLength)
    (starts : label ++ Wire.putWord32 32 <+: label ++ (Wire.putWord32 count ++ content)) :
    count = 32 := by
  obtain ⟨rest, same⟩ := starts
  rw [List.append_assoc] at same
  have words := List.append_cancel_left same
  have field := (List.append_inj words (by simp)).1
  have small : count < UInt32.size := Nat.lt_of_le_of_lt fits Wire.maxLength_lt
  rw [← Wire.toNat_putWord32 small, ← field]
  rfl

theorem IsPlain.eq_encode (plain : key.IsPlain encoding) (wellFormed : key.WellFormed)
    (form : key.WireForm encoding) : encoding = key.encode := by
  obtain ⟨algorithm, fields, same, fieldsForm, rfl⟩ := form
  have own : algorithm = key.algorithm := by
    cases algorithm with
    | rsa hash =>
      cases hash with
      | none => exact same
      | some hash => exact absurd (List.prefix_append _ fields) (plain.label hash)
    | dsa | ecdsa | ed25519 | skEcdsa | skEd25519 | other => exact same
  subst own
  have array := plain.arrayLength
  cases key with
  | ed25519 content =>
    obtain ⟨count, _, fits, rfl⟩ := fieldsForm
    have size : content.length = 32 := wellFormed
    obtain rfl := count_of_starts fits (array rfl)
    simp [encode, encodeFields, Wire.putBytes, size]
  | skEd25519 content application =>
    obtain ⟨count, _, fits, rfl⟩ := fieldsForm
    have size : content.length = 32 := wellFormed.1
    have starts := array rfl
    rw [List.append_assoc] at starts
    obtain rfl := count_of_starts fits starts
    simp [encode, encodeFields, Wire.putBytes, size]
  | dsa | ecdsa | rsa | skEcdsa | other =>
    obtain rfl := fieldsForm
    rfl

theorem WireForm.append_eq_encode_iff (form : key.WireForm encoding)
    (wellFormed : key.WellFormed) :
    encoding ++ extra = key.encode ↔ extra = [] ∧ key.IsPlain encoding := by
  constructor
  · intro same
    -- The encoding alone is already as long as the blob of the key.
    have long := form.length_encode_le
    have lengths := congrArg List.length same
    rw [List.length_append] at lengths
    obtain rfl : extra = [] := List.eq_nil_of_length_eq_zero (by omega)
    rw [List.append_nil] at same
    exact ⟨rfl, same ▸ wellFormed.isPlain_encode⟩
  · rintro ⟨rfl, plain⟩
    rw [List.append_nil]
    exact plain.eq_encode wellFormed form

end PublicKey

namespace StoredKey

variable {key : StoredKey} {input written : Bytes} {parts : Parts}

structure Fits (key : StoredKey) : Prop where
  blob : key.publicKey.encode.length ≤ Wire.maxLength
  comment : (Text.encode key.comment).length ≤ Wire.maxLength
  sealedPart : key.sealedPart.length ≤ Wire.maxLength

theorem Fits.length_encode_lt (fits : key.Fits) : key.encode.length < UInt32.size := by
  have headerSize : (Text.encode header).length = 20 := by decide
  have bound : 4 * (4 + Wire.maxLength) < UInt32.size := by decide
  have smallest : 20 ≤ Wire.maxLength := by decide
  obtain ⟨blob, comment, sealedPart⟩ := fits
  simp only [encode, Wire.putText, List.length_append, Wire.length_putBytes, headerSize]
  omega

theorem fits_of_decode (found : decode input = .ok key) : key.Fits := by
  obtain ⟨_, ⟨blob, decoded, blobFits, commentFits, sealedFits, _⟩, _⟩ := decode_eq_ok_iff.1 found
  obtain ⟨encoding, extra, ⟨_, form⟩, rfl⟩ := PublicKey.reads_decode.value.1 decoded
  have shorter := form.length_encode_le
  rw [List.length_append] at blobFits
  exact ⟨by omega, commentFits, sealedFits⟩

theorem decode_of_run_error {problem : RecordError}
    (ran : decodeFields.run input = .error problem) : decode input = .error problem := by
  rw [decode, ran]
  rfl

theorem run_decodeFields (rest : Bytes) :
    decodeFields.run (Wire.putText header ++ rest) =
      (do
        let blob ← Wire.bytes.mapError .wire
        let publicKey ← Decoder.ofExcept ((PublicKey.decode.value blob).mapError .publicKey)
        let comment ← Wire.text.mapError .wire
        let sealedPart ← Wire.bytes.mapError .wire
        return ⟨publicKey, comment, sealedPart⟩ : Decoder RecordError StoredKey).run rest := by
  have headerFits : (Text.encode header).length ≤ Wire.maxLength := by decide
  exact (Wire.reads_text.mapError RecordError.wire).run_bind ⟨headerFits, rfl⟩ _ rest

theorem decode_encode_overflow (wellFormed : key.publicKey.WellFormed)
    (small : key.encode.length < UInt32.size) (long : ¬key.Fits) :
    decode key.encode = .error (.wire .overflow) := by
  apply decode_of_run_error
  have written : key.encode = Wire.putText header ++ (Wire.putBytes key.publicKey.encode ++
      (Wire.putText key.comment ++ (Wire.putBytes key.sealedPart ++ []))) := by
    simp [encode]
  have sizes := small
  simp only [encode, Wire.putText, List.length_append, Wire.length_putBytes] at sizes
  rw [written, run_decodeFields]
  -- The first string that is too long is where reading stops.
  by_cases blobFits : key.publicKey.encode.length ≤ Wire.maxLength
  · have decoded : (PublicKey.decode.value key.publicKey.encode).mapError RecordError.publicKey =
        .ok key.publicKey :=
      mapError_eq_ok_iff.2 (PublicKey.value_encode wellFormed)
    rw [(Wire.reads_bytes.mapError RecordError.wire).run_bind ⟨blobFits, rfl⟩]
    refine ((reads_ofExcept _).run_bind ⟨decoded, rfl⟩ _
      (Wire.putText key.comment ++ (Wire.putBytes key.sealedPart ++ []))).trans ?_
    by_cases commentFits : (Text.encode key.comment).length ≤ Wire.maxLength
    · have sealedLong : Wire.maxLength < key.sealedPart.length := by
        by_contra sealedFits
        exact long ⟨blobFits, commentFits, by omega⟩
      rw [(Wire.reads_text.mapError RecordError.wire).run_bind ⟨commentFits, rfl⟩]
      exact run_bind_error
        (mapError_run_error (Wire.bytes_run_overflow sealedLong (by omega) _) _) _
    · exact run_bind_error
        (mapError_run_error (Wire.text_run_overflow (by omega) (by omega) _) _) _
  · exact run_bind_error
      (mapError_run_error (Wire.bytes_run_overflow (by omega) (by omega) _) _) _

/-- What becomes of a key that is written. -/
structure ReadsBack (key : StoredKey) (written : Bytes) : Prop where
  writes : key.write = .ok written
  decodes : decode written = .ok key ↔ key.Fits
  refuses : ¬key.Fits → decode written = .error (.wire .overflow)

theorem readsBack (wellFormed : key.publicKey.WellFormed)
    (small : key.encode.length < UInt32.size) : key.ReadsBack key.encode where
  writes := write_eq_ok small
  decodes := by
    constructor
    · exact fits_of_decode
    · intro fits
      exact decode_encode wellFormed fits.blob fits.comment fits.sealedPart
  refuses := decode_encode_overflow wellFormed small

theorem Parts.Spell.encode_eq (spells : parts.Spell key input) :
    key.encode =
      ({ parts with encoding := key.publicKey.encode, extra := [] } : Parts).strings.flatMap
        Wire.putBytes := by
  have comment := Text.decode?_eq_some_iff.1 spells.comment
  simp [encode_eq_flatMap, Parts.strings, Parts.blob, comment, spells.sealedPart]

theorem Parts.Spell.length_encode_le (spells : parts.Spell key input) :
    key.encode.length ≤ input.length := by
  have shorter := spells.publicKey.2.length_encode_le
  rw [spells.encode_eq, spells.written]
  simp only [Parts.strings, Parts.blob, List.flatMap_cons, List.length_append,
    Wire.length_putBytes, List.length_nil]
  omega

theorem Parts.Spell.encode_eq_iff (spells : parts.Spell key input) :
    key.encode = input ↔ parts.blob = key.publicKey.encode := by
  rw [spells.encode_eq, spells.written]
  constructor
  · intro same
    -- Two strings that end in the same parts are as long as each other up to there.
    have before := List.append_cancel_left same
    have blobs := List.append_cancel_right before
    have sizes := congrArg List.length blobs
    simp only [Parts.blob, Wire.length_putBytes, List.append_nil] at sizes blobs ⊢
    exact ((List.append_inj blobs (by simp)).2).symm
  · intro same
    simp [Parts.strings, Parts.blob] at same ⊢
    rw [same]

/-- What becomes of a record that is read and written again. -/
structure Normalises (key : StoredKey) (input written : Bytes) : Prop where
  writes : key.write = .ok written
  decodes : decode written = .ok key
  noLonger : written.length ≤ input.length
  spelled : key.IsRecord input
  sameBlob : ∀ parts : Parts, parts.Spell key input →
    (written = input ↔ parts.blob = key.publicKey.encode)
  plain : ∀ parts : Parts, parts.Spell key input →
    (written = input ↔ parts.extra = [] ∧ key.publicKey.IsPlain parts.encoding)

theorem normalises (found : decode input = .ok key) : key.Normalises input key.encode := by
  have isRecord := decode_eq_ok_iff_isRecord.1 found
  have fits := fits_of_decode found
  have wellFormed := wellFormed_of_decode found
  exact
    { writes := write_eq_ok fits.length_encode_lt
      decodes := decode_encode wellFormed fits.blob fits.comment fits.sealedPart
      noLonger := by
        obtain ⟨parts, spells⟩ := isRecord
        exact spells.length_encode_le
      spelled := isRecord
      sameBlob := fun _ spells => spells.encode_eq_iff
      plain := fun _ spells =>
        spells.encode_eq_iff.trans (spells.publicKey.2.append_eq_encode_iff wellFormed) }

theorem written_records_read_back :
    (∀ key : StoredKey, (∃ blob, PublicKey.decode.value blob = .ok key.publicKey) →
        key.encode.length < UInt32.size → ∃ written, key.ReadsBack written) ∧
      ∀ (input : Bytes) (key : StoredKey), decode input = .ok key →
        ∃ written, key.Normalises input written := by
  constructor
  · intro key readable small
    obtain ⟨blob, decoded⟩ := readable
    exact ⟨key.encode, readsBack (PublicKey.wellFormed_of_value decoded) small⟩
  · intro input key found
    exact ⟨key.encode, normalises found⟩

def rsaKey : StoredKey := ⟨.rsa [1, 0, 1] [5], "c", [9]⟩

/-- The blob names a signature algorithm, and a byte follows the key. -/
def relabelledRecord : Bytes :=
  let blob := (Algorithm.rsa (some .sha256)).encode ++ rsaKey.publicKey.encodeFields ++ [0]
  [Text.encode header, blob, Text.encode rsaKey.comment, rsaKey.sealedPart].flatMap Wire.putBytes

def commentTooLong : StoredKey :=
  ⟨rsaKey.publicKey, String.ofList (List.replicate (Wire.maxLength + 1) 'c'), []⟩

theorem relabelled_record_normalises :
    (∃ written, commentTooLong.ReadsBack written ∧
        decode written = .error (.wire .overflow)) ∧
      decode relabelledRecord = .ok rsaKey ∧
        ∃ written, rsaKey.Normalises relabelledRecord written ∧ written ≠ relabelledRecord := by
  have readable : PublicKey.decode.value rsaKey.publicKey.encode = .ok rsaKey.publicKey := by
    decide +kernel
  have comment : (Text.encode commentTooLong.comment).length = Wire.maxLength + 1 :=
    Text.length_encode_replicate _
  have small : commentTooLong.encode.length < UInt32.size := by
    have headerSize : (Text.encode header).length = 20 := by decide
    have blobSize : commentTooLong.publicKey.encode.length = 23 := by decide
    have bound : 59 + (Wire.maxLength + 1) < UInt32.size := by decide
    simp only [encode, Wire.putText, List.length_append, Wire.length_putBytes, headerSize, blobSize,
      comment]
    simp only [commentTooLong, List.length_nil]
    omega
  obtain ⟨written, readsBack⟩ := written_records_read_back.1 commentTooLong ⟨_, readable⟩ small
  have refused := readsBack.refuses fun fits => by
    have short := fits.comment
    omega
  have found : decode relabelledRecord = .ok rsaKey := by decide +kernel
  obtain ⟨again, normal⟩ := written_records_read_back.2 relabelledRecord rsaKey found
  refine ⟨⟨written, readsBack, refused⟩, found, again, normal, ?_⟩
  have writes := normal.writes
  rintro rfl
  revert writes
  decide +kernel

/-- The length before the array counts a byte that is not there. -/
def longArray : Parts where
  encoding := Algorithm.ed25519.encode ++ Wire.putWord32 33 ++ List.replicate 32 7
  extra := []
  comment := [0x63]
  sealedPart := []

theorem rewrites_long_array :
    let key : StoredKey := ⟨.ed25519 (List.replicate 32 7), "c", []⟩
    let input := longArray.strings.flatMap Wire.putBytes
    decode input = .ok key ∧ longArray.Spell key input ∧ longArray.extra = [] ∧
      (∀ hash, ¬(Algorithm.rsa (some hash)).encode <+: longArray.encoding) ∧
      ∃ written, key.write = .ok written ∧ written ≠ input := by
  intro key input
  have spells : longArray.Spell key input :=
    { written := rfl
      short := by decide
      publicKey := ⟨rfl, .ed25519, _, rfl, ⟨33, by decide, by decide, rfl⟩, rfl⟩
      comment := by decide
      sealedPart := rfl }
  have found : decode input = .ok key := decode_eq_ok_iff_isRecord.2 ⟨_, spells⟩
  have label (hash : RsaHash) : ¬(Algorithm.rsa (some hash)).encode <+: longArray.encoding := by
    cases hash <;> decide
  have normal := normalises found
  refine ⟨found, spells, rfl, label, key.encode, normal.writes, fun same => ?_⟩
  have blobs := (normal.sameBlob _ spells).1 same
  revert blobs
  decide

end StoredKey

end SoleKey
