import SoleKey.KeySource
import SoleKey.Proofs.StoredKey.RoundTrip

set_option autoImplicit false

namespace SoleKey

namespace Decoder

variable {ε δ α β : Type}

/-- An input that is read to its end is refused for this reason once something is cut from it. -/
def NeedsAll (decoder : Decoder ε α) (problem : ε) : Prop :=
  ∀ front missing value, missing ≠ [] → decoder.run (front ++ missing) = .ok (value, []) →
    decoder.run front = .error problem

theorem Reads.run_append {decoder : Decoder ε α} {form : α → Bytes → Prop}
    (reads : Reads decoder form) {input rest : Bytes} {value : α}
    (ran : decoder.run input = .ok (value, rest)) (more : Bytes) :
    decoder.run (input ++ more) = .ok (value, rest ++ more) := by
  obtain ⟨taken, fits, rfl⟩ := (reads _ _ _).1 ran
  exact (reads _ _ _).2 ⟨taken, fits, List.append_assoc ..⟩

theorem needsAll_pure (given : α) (problem : ε) :
    NeedsAll (pure given : Decoder ε α) problem := by
  intro front missing value lost ran
  obtain ⟨_, ⟨_, rfl⟩, same⟩ := (reads_pure given _ _ _).1 ran
  simp [lost] at same

theorem needsAll_ofExcept (result : Except ε α) (problem : ε) :
    NeedsAll (ofExcept result) problem := by
  intro front missing value lost ran
  obtain ⟨_, ⟨_, rfl⟩, same⟩ := (reads_ofExcept result _ _ _).1 ran
  simp [lost] at same

theorem NeedsAll.guard {decoder refusal : Decoder ε α} {problem : ε}
    (needs : NeedsAll decoder problem) (bad : Prop) [Decidable bad]
    (refuses : Reads refusal fun _ _ => False) :
    NeedsAll (if bad then refusal else decoder) problem := by
  by_cases holds : bad
  · intro front missing value _ ran
    rw [if_pos holds] at ran
    obtain ⟨_, impossible, _⟩ := (refuses _ _ _).1 ran
    exact impossible.elim
  · rwa [if_neg holds]

theorem NeedsAll.mapError {decoder : Decoder ε α} {problem : ε} (needs : NeedsAll decoder problem)
    (change : ε → δ) : NeedsAll (decoder.mapError change) (change problem) := by
  intro front missing value lost ran
  exact mapError_run_error (needs front missing value lost (mapError_eq_ok_iff.1 ran)) change

-- The cut falls into what the first decoder takes, or behind it.
theorem NeedsAll.bind {first : Decoder ε α} {next : α → Decoder ε β} {form : α → Bytes → Prop}
    {problem : ε} (reads : Reads first form) (needs : NeedsAll first problem)
    (continues : ∀ found, NeedsAll (next found) problem) : NeedsAll (first >>= next) problem := by
  intro front missing value lost ran
  rw [StateT.run_bind, bind_eq_ok_iff] at ran
  obtain ⟨⟨found, left⟩, ranFirst, ranNext⟩ := ran
  obtain ⟨taken, fits, split⟩ := (reads _ _ _).1 ranFirst
  have whole (rest : Bytes) : first.run (taken ++ rest) = .ok (found, rest) :=
    (reads _ _ _).2 ⟨taken, fits, rfl⟩
  have behind (rest : Bytes) (same : left = rest ++ missing) :
      (first >>= next).run (taken ++ rest) = .error problem := by
    rw [run_bind_ok (whole rest)]
    exact continues found rest missing value lost (same ▸ ranNext)
  rcases List.append_eq_append_iff.1 split with ⟨rest, rfl, rfl⟩ | ⟨rest, rfl, rfl⟩
  · by_cases cut : rest = []
    · subst cut
      simpa using behind [] rfl
    · exact run_bind_error (needs front rest found cut (by simpa using whole [])) next
  · exact behind rest rfl

end Decoder

namespace Wire

open Decoder

theorem needsAll_word32 : NeedsAll word32 .length := by
  intro front missing value lost ran
  obtain ⟨_, ⟨_, rfl⟩, same⟩ := (reads_word32 _ _ _).1 ran
  have sizes := congrArg List.length same
  have lostSome := List.length_pos_iff.2 lost
  simp only [List.length_append, length_putWord32, List.length_nil] at sizes
  exact word32_run_of_length_lt (by omega)

theorem needsAll_raw (count : Nat) : NeedsAll (raw count) .length := by
  intro front missing value lost ran
  obtain ⟨_, ⟨size, rfl⟩, same⟩ := (reads_raw count _ _ _).1 ran
  have sizes := congrArg List.length same
  have lostSome := List.length_pos_iff.2 lost
  rw [List.length_append, List.append_nil, size] at sizes
  have fewer : Bytes.split? count front = none := by
    simp [Bytes.split?]
    omega
  simp [raw, StateT.run, fewer]

theorem needsAll_length : NeedsAll length .length :=
  needsAll_word32.bind reads_word32 fun count =>
    (needsAll_pure count _).guard (count > maxLength) (reads_throw WireError.overflow)

theorem needsAll_bytes : NeedsAll bytes .length :=
  needsAll_length.bind reads_length needsAll_raw

theorem needsAll_text : NeedsAll text .length :=
  needsAll_bytes.bind reads_bytes fun found => needsAll_ofExcept (ofUtf8 found) _

end Wire

namespace StoredKey

open Decoder

variable {key : StoredKey} {input front missing : Bytes}

theorem needsAll_decodeFields : NeedsAll decodeFields (.wire .length) := by
  have text := Wire.needsAll_text.mapError RecordError.wire
  have bytes := Wire.needsAll_bytes.mapError RecordError.wire
  have readsText := Wire.reads_text.mapError RecordError.wire
  have readsBytes := Wire.reads_bytes.mapError RecordError.wire
  refine text.bind readsText fun found => NeedsAll.guard ?_ (found ≠ header)
    (reads_throw_bind (RecordError.header found) _)
  -- The key is read from a blob that is there as a whole, so no cut falls into it.
  exact bytes.bind readsBytes fun blob =>
    (needsAll_ofExcept _ _).bind (reads_ofExcept _) fun publicKey =>
      text.bind readsText fun comment => bytes.bind readsBytes fun sealedPart =>
        needsAll_pure (⟨publicKey, comment, sealedPart⟩ : StoredKey) _

theorem decode_cut (accepted : decode (front ++ missing) = .ok key) (lost : missing ≠ []) :
    decode front = .error (.wire .length) :=
  decode_of_run_error
    (needsAll_decodeFields front missing key lost (decode_eq_ok_iff_run.1 accepted))

theorem decode_extended (accepted : decode input = .ok key) {more : Bytes} (extra : more ≠ []) :
    decode (input ++ more) = .error (.trailingData more.length) := by
  have ran := reads_decodeFields.run_append (decode_eq_ok_iff_run.1 accepted) more
  rw [List.nil_append] at ran
  have nonempty : more.isEmpty = false := by simpa using extra
  rw [decode, ran]
  simp [nonempty, Bind.bind, Except.bind, throw, throwThe, MonadExceptOf.throw]

theorem decode_damaged (accepted : decode input = .ok key) {damaged : Bytes}
    (related : damaged <+: input ∨ input <+: damaged) (different : damaged ≠ input) :
    ∃ problem, decode damaged = .error problem := by
  rcases related with ⟨missing, rfl⟩ | ⟨more, rfl⟩
  · exact ⟨_, decode_cut accepted (by simpa using different)⟩
  · exact ⟨_, decode_extended accepted (by simpa using different)⟩

/-- What becomes of a record from which something is cut, or behind which something is written. -/
structure RejectsDamage (input : Bytes) : Prop where
  cut : ∀ front missing, input = front ++ missing → missing ≠ [] →
    decode front = .error (.wire .length)
  extended : ∀ more, more ≠ [] → decode (input ++ more) = .error (.trailingData more.length)
  prefixFree : ∀ other found, decode other = .ok found → other <+: input ∨ input <+: other →
    other = input
  -- The file holds no key then, neither this one nor another.
  unserved : ∀ path damaged, damaged <+: input ∨ input <+: damaged → damaged ≠ input →
    ∃ problem, (KeySource.file path).load (.file damaged) = .failed (.record problem)

theorem damaged_records_rejected (accepted : decode input = .ok key) : RejectsDamage input where
  cut := by
    rintro front missing rfl lost
    exact decode_cut accepted lost
  extended := fun _ extra => decode_extended accepted extra
  prefixFree := by
    intro other found acceptedToo related
    by_contra different
    obtain ⟨problem, refused⟩ := decode_damaged accepted related different
    simp [acceptedToo] at refused
  unserved := by
    intro path damaged related different
    obtain ⟨problem, refused⟩ := decode_damaged accepted related different
    exact ⟨problem, by simp [KeySource.load, load, KeyFile.read, refused]⟩

-- A byte follows the key inside the blob of this record. The cut falls between the two.
theorem relabelled_record_rejects_damage :
    decode relabelledRecord = .ok rsaKey ∧ RejectsDamage relabelledRecord ∧
      decode (relabelledRecord.take 56) = .error (.wire .length) ∧
      decode (relabelledRecord ++ relabelledRecord) =
        .error (.trailingData relabelledRecord.length) := by
  have found : decode relabelledRecord = .ok rsaKey := by decide +kernel
  have rejects := damaged_records_rejected found
  exact ⟨found, rejects, rejects.cut _ _ (List.take_append_drop 56 _).symm (by decide),
    rejects.extended _ (by decide)⟩

end StoredKey

end SoleKey
