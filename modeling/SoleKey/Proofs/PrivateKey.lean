import SoleKey.Proofs.Keypair

set_option autoImplicit false

namespace SoleKey

namespace Decoder

variable {ε α β : Type}

def ReadsAll (decoder : Decoder ε α) (form : α → Bytes → Prop) : Prop :=
  ∀ input value rest, decoder.run input = .ok (value, rest) ↔ form value input ∧ rest = []

theorem ReadsAll.congr {decoder : Decoder ε α} {form other : α → Bytes → Prop}
    (reads : ReadsAll decoder form) (same : ∀ value input, form value input ↔ other value input) :
    ReadsAll decoder other := by
  intro input value rest
  rw [reads input value rest, same]

theorem ReadsAll.guard {decoder refusal : Decoder ε α} {form : α → Bytes → Prop}
    (reads : ReadsAll decoder form) (bad : Prop) [Decidable bad]
    (refuses : Reads refusal fun _ _ => False) :
    ReadsAll (if bad then refusal else decoder) fun value input => ¬bad ∧ form value input := by
  intro input value rest
  by_cases holds : bad
  · simpa [holds] using refuses input value rest
  · simpa [holds] using reads input value rest

theorem Reads.bindAll {first : Decoder ε α} {next : α → Decoder ε β} {form : α → Bytes → Prop}
    {forms : α → β → Bytes → Prop} (reads : Reads first form)
    (continues : ∀ found, ReadsAll (next found) (forms found)) :
    ReadsAll (first >>= next) fun value input =>
      ∃ found front back, form found front ∧ forms found value back ∧ input = front ++ back := by
  intro input value rest
  rw [StateT.run_bind, bind_eq_ok_iff]
  constructor
  · rintro ⟨⟨found, left⟩, ran, later⟩
    obtain ⟨front, fits, rfl⟩ := (reads input found left).1 ran
    obtain ⟨back, rfl⟩ := (continues found left value rest).1 later
    exact ⟨⟨found, front, left, fits, back, rfl⟩, rfl⟩
  · rintro ⟨⟨found, front, back, fits, later, rfl⟩, rfl⟩
    exact ⟨(found, back), (reads _ _ _).2 ⟨front, fits, rfl⟩,
      (continues found back value []).2 ⟨later, rfl⟩⟩

theorem ReadsAll.thenPure {decoder : Decoder ε α} {form : α → Bytes → Prop}
    (reads : ReadsAll decoder form) (given : β) :
    ReadsAll (decoder >>= fun _ => pure given) fun value input =>
      value = given ∧ ∃ found, form found input := by
  intro input value rest
  rw [StateT.run_bind, bind_eq_ok_iff]
  constructor
  · rintro ⟨⟨found, left⟩, ran, later⟩
    obtain ⟨rfl, rfl⟩ := Prod.mk.inj (Except.ok.inj later)
    obtain ⟨fits, rfl⟩ := (reads input found left).1 ran
    exact ⟨⟨rfl, found, fits⟩, rfl⟩
  · rintro ⟨⟨rfl, found, fits⟩, rfl⟩
    exact ⟨(found, []), (reads input found []).2 ⟨fits, rfl⟩, rfl⟩

theorem ReadsAll.look {next : Bytes → Decoder ε α} {form : Bytes → α → Bytes → Prop}
    (reads : ∀ input, ReadsAll (next input) (form input)) :
    ReadsAll (get >>= next) fun value input => form input value input :=
  fun input value rest => reads input input value rest

theorem readsAll_clear : ReadsAll (set ([] : Bytes) : Decoder ε Unit) fun _ _ => True := by
  intro input value rest
  have run : (set ([] : Bytes) : Decoder ε Unit).run input = .ok ((), []) := rfl
  simp [run, eq_comm]

theorem reads_exactly {decoder : Nat → Decoder ε α} {form : α → Bytes → Prop} (count : Nat)
    (reads : ∀ missing, ReadsAll (decoder missing)
      fun value input => missing = 0 ∧ form value input) :
    Reads (do
      let input ← get
      Decoder.within count (decoder (count - (input.take count).length)))
      fun value taken => taken.length = count ∧ form value taken := by
  intro input value rest
  have run : (do
      let input ← get
      Decoder.within count (decoder (count - (input.take count).length)) :
        Decoder ε α).run input =
      (Decoder.within count (decoder (count - (input.take count).length))).run input := rfl
  rw [run, within_eq_ok_iff]
  constructor
  · rintro ⟨unread, ran, rfl⟩
    obtain ⟨⟨leavesNothing, fits⟩, rfl⟩ := (reads _ _ _ _).1 ran
    have whole : (input.take count).length = count := by
      simp only [List.length_take] at leavesNothing ⊢
      omega
    exact ⟨input.take count, ⟨whole, fits⟩, (List.take_append_drop ..).symm⟩
  · rintro ⟨taken, ⟨rfl, fits⟩, rfl⟩
    exact ⟨[], (reads _ _ _ _).2 ⟨⟨by simp, by simpa using fits⟩, rfl⟩, by simp⟩

end Decoder

open Decoder

namespace PrivateKey

@[simp] theorem length_padding (count : Nat) : (padding count).length = count := by
  simp [padding]

/-- The check number twice, the key pair, the comment, and padding to a multiple of the block. -/
def BodyForm (publicKey : PublicKey) (key : PrivateKey) (body : Bytes) : Prop :=
  ∃ check pair comment form count, key = .clear check pair comment ∧ check < UInt32.size ∧
    pair.WellFormed ∧ pair.WireForm form ∧ pair.publicKey = publicKey ∧
    (Text.encode comment).length ≤ Wire.maxLength ∧ count < blockSize ∧
    body = Wire.putWord32 check ++ Wire.putWord32 check ++ form ++ Wire.putText comment ++
      padding count

theorem reads_skipPadding (missing : Nat) :
    ReadsAll (skipPadding missing) fun _ input => missing = 0 ∧ input.length < blockSize ∧
      input = padding input.length := by
  refine (ReadsAll.look fun input => (readsAll_clear.guard (input ≠ padding input.length)
    (reads_throw_bind FormatError.encoding _)).guard (missing ≠ 0 ∨ input.length ≥ blockSize)
      (reads_throw_bind (FormatError.wire .length) _)).congr ?_
  intro value input
  constructor
  · rintro ⟨fits, same, _⟩
    exact ⟨by omega, by omega, by simpa using same⟩
  · rintro ⟨complete, short, same⟩
    exact ⟨by omega, by simpa using same, trivial⟩

theorem reads_ending (check : Nat) (pair : Keypair) (missing : Nat) : ReadsAll
    (do
      let comment ← Wire.text
      skipPadding missing
      return .clear check pair comment : KeyDecoder PrivateKey)
    fun key input => ∃ comment count, key = .clear check pair comment ∧
      (Text.encode comment).length ≤ Wire.maxLength ∧ missing = 0 ∧ count < blockSize ∧
      input = Wire.putText comment ++ padding count := by
  refine ((Wire.reads_text.mapError FormatError.wire).bindAll fun comment =>
    (reads_skipPadding missing).thenPure (PrivateKey.clear check pair comment)).congr ?_
  intro key input
  constructor
  · rintro ⟨comment, _, padded, ⟨fits, rfl⟩, ⟨rfl, _, complete, short, same⟩, rfl⟩
    exact ⟨comment, padded.length, rfl, fits, complete, short, by rw [← same]⟩
  · rintro ⟨comment, count, rfl, fits, complete, short, rfl⟩
    exact ⟨comment, _, padding count, ⟨fits, rfl⟩,
      ⟨rfl, (), complete, by simpa using short, by simp⟩, rfl⟩

theorem reads_pair (publicKey : PublicKey) (check missing : Nat) : ReadsAll
    (do
      let pair ← Keypair.decode
      if pair.publicKey ≠ publicKey then throw .publicKeyMismatch
      let comment ← Wire.text
      skipPadding missing
      return .clear check pair comment : KeyDecoder PrivateKey)
    fun key input => ∃ pair form comment count, key = .clear check pair comment ∧
      pair.WellFormed ∧ pair.WireForm form ∧ pair.publicKey = publicKey ∧
      (Text.encode comment).length ≤ Wire.maxLength ∧ missing = 0 ∧ count < blockSize ∧
      input = form ++ Wire.putText comment ++ padding count := by
  refine (Keypair.reads_decode.bindAll fun pair => (reads_ending check pair missing).guard
    (pair.publicKey ≠ publicKey) (reads_throw_bind .publicKeyMismatch _)).congr ?_
  intro key input
  constructor
  · rintro ⟨pair, form, _, ⟨wellFormed, wire⟩, ⟨own, comment, count, rfl, fits, complete, short, rfl⟩,
      rfl⟩
    exact ⟨pair, form, comment, count, rfl, wellFormed, wire, by simpa using own, fits, complete,
      short, by simp⟩
  · rintro ⟨pair, form, comment, count, rfl, wellFormed, wire, own, fits, complete, short, rfl⟩
    exact ⟨pair, form, _, ⟨wellFormed, wire⟩,
      ⟨by simpa using own, comment, count, rfl, fits, complete, short, rfl⟩, by simp⟩

theorem reads_decodeBody (publicKey : PublicKey) (missing : Nat) :
    ReadsAll (decodeBody publicKey missing) fun key body =>
      missing = 0 ∧ BodyForm publicKey key body := by
  refine ((Wire.reads_word32.mapError FormatError.wire).bindAll fun check =>
    (Wire.reads_word32.mapError FormatError.wire).bindAll fun again =>
      (reads_pair publicKey check missing).guard (again ≠ check)
        (reads_throw_bind .cryptographic _)).congr ?_
  intro key body
  constructor
  · rintro ⟨check, _, _, ⟨small, rfl⟩, ⟨again, _, _, ⟨_, rfl⟩, ⟨twice, pair, form, comment, count,
      rfl, wellFormed, wire, own, fits, complete, short, rfl⟩, rfl⟩, rfl⟩
    obtain rfl : again = check := by simpa using twice
    exact ⟨complete, again, pair, comment, form, count, rfl, small, wellFormed, wire, own, fits,
      short, by simp⟩
  · rintro ⟨complete, check, pair, comment, form, count, rfl, small, wellFormed, wire, own, fits,
      short, rfl⟩
    exact ⟨check, _, _, ⟨small, rfl⟩, ⟨check, _, _, ⟨small, rfl⟩, ⟨by simp, pair, form, comment,
      count, rfl, wellFormed, wire, own, fits, complete, short, rfl⟩, rfl⟩, by simp⟩

theorem reads_decodeClear (publicKey : PublicKey) :
    Reads (decodeClear publicKey) fun key taken => ∃ body, BodyForm publicKey key body ∧
      body.length % blockSize = 0 ∧ body.length ≤ Wire.maxLength ∧ taken = Wire.putBytes body := by
  refine ((Wire.reads_length.mapError FormatError.wire).bind fun count =>
    (reads_exactly count (reads_decodeBody publicKey)).guard (count % blockSize ≠ 0)
      (reads_throw_bind (.wire .length) _)).congr ?_
  intro key taken
  constructor
  · rintro ⟨_, _, body, ⟨fits, rfl⟩, ⟨whole, rfl, form⟩, rfl⟩
    exact ⟨body, form, by simpa using whole, fits, rfl⟩
  · rintro ⟨body, form, whole, fits, rfl⟩
    exact ⟨body.length, _, body, ⟨fits, rfl⟩, ⟨by simpa using whole, rfl, form⟩, rfl⟩

variable {check : Nat} {pair : Keypair} {comment : String} {publicKey : PublicKey} {body : Bytes}

theorem length_encodeBody (check : Nat) (pair : Keypair) (comment : String) :
    let size := 12 + pair.encode.length + (Text.encode comment).length
    (encodeBody check pair comment).length = size + (blockSize - size % blockSize) % blockSize := by
  have size : (Wire.putWord32 check ++ Wire.putWord32 check ++ pair.encode ++
      Wire.putText comment).length = 12 + pair.encode.length + (Text.encode comment).length := by
    simp only [List.length_append, Wire.length_putWord32, Wire.putText, Wire.length_putBytes]
    omega
  unfold encodeBody
  generalize Wire.putWord32 check ++ Wire.putWord32 check ++ pair.encode ++ Wire.putText comment =
    content at size
  dsimp only
  rw [List.length_append, length_padding, size]

theorem bodyForm_encodeBody (small : check < UInt32.size) (wellFormed : pair.WellFormed)
    (fits : (Text.encode comment).length ≤ Wire.maxLength) :
    BodyForm pair.publicKey (.clear check pair comment) (encodeBody check pair comment) :=
  ⟨check, pair, comment, pair.encode, _, rfl, small, wellFormed, wellFormed.wireForm_encode, rfl,
    fits, Nat.mod_lt _ (by decide), rfl⟩

theorem length_encodeBody_le (form : BodyForm publicKey (.clear check pair comment) body)
    (whole : body.length % blockSize = 0) (fits : body.length ≤ Wire.maxLength) :
    (encodeBody check pair comment).length ≤ Wire.maxLength ∨
      pair.IsHigh ∧ (encodeBody check pair comment).length = Wire.maxLength + 1 := by
  obtain ⟨_, _, _, wire, count, same, _, _, wireForm, _, _, short, rfl⟩ := form
  obtain ⟨rfl, rfl, rfl⟩ := PrivateKey.clear.inj same
  obtain ⟨longer, low⟩ := wireForm.length_encode_le
  have size := length_encodeBody check pair comment
  simp only [List.length_append, Wire.length_putWord32, Wire.putText, Wire.length_putBytes,
    length_padding, blockSize, Wire.maxLength] at size whole fits ⊢
  -- Both lengths are whole blocks, and the limit is one byte below a whole number of them.
  by_cases high : pair.IsHigh
  · by_cases within : (encodeBody check pair comment).length ≤ 0xFFFFF
    · exact .inl within
    · exact .inr ⟨high, by omega⟩
  · have noLonger := low high
    exact .inl (by omega)

structure Readable (check : Nat) (pair : Keypair) (comment : String) : Prop where
  small : check < UInt32.size
  wellFormed : pair.WellFormed
  blobFits : pair.publicKey.encode.length ≤ Wire.maxLength
  commentFits : (Text.encode comment).length ≤ Wire.maxLength
  body : (encodeBody check pair comment).length ≤ Wire.maxLength ∨
    pair.IsHigh ∧ (encodeBody check pair comment).length = Wire.maxLength + 1

def IsReadable : PrivateKey → Prop
  | .clear check pair comment => Readable check pair comment
  | .encrypted _ => True

theorem yields_decodeClear (blobFits : publicKey.encode.length ≤ Wire.maxLength) :
    Yields (decodeClear publicKey) IsReadable := by
  intro input key rest ran
  obtain ⟨_, ⟨body, form, whole, fits, rfl⟩, _⟩ := (reads_decodeClear publicKey _ _ _).1 ran
  have ⟨check, pair, comment, wire, count, same, small, wellFormed, _, own, commentFits, _⟩ := form
  subst same own
  exact ⟨small, wellFormed, blobFits, commentFits, length_encodeBody_le form whole fits⟩

theorem yields_decodeEncrypted (size tagSize : Nat) :
    Yields (decodeEncrypted publicKey size tagSize) IsReadable :=
  (yields_true _).bind fun content _ => ((yields_true _).bind fun _ _ => yields_pure trivial).guard
    (content.length % size ≠ 0) (reads_throw_bind FormatError.cryptographic _)

theorem yields_decodePrefixed :
    Yields PublicKey.decodePrefixed fun key => key.encode.length ≤ Wire.maxLength := by
  have reads := Wire.Reads.prefixed PublicKey.reads_decode FormatError.wire
  refine reads.yields.weaken ?_
  rintro key ⟨_, count, content, inside, fits, ⟨_, form⟩, rfl⟩
  have shorter := form.length_encode_le
  omega

theorem yields_decodeFields : Yields decodeFields IsReadable := by
  refine (yields_true _).bind fun found _ => Yields.guard ((yields_true _).bind fun cipher _ =>
    (yields_true _).bind fun derivation _ => (yields_true _).bind fun keys _ =>
      (yields_decodePrefixed.bind fun publicKey blobFits => ?_).guard (keys ≠ 1)
        (reads_throw_bind (FormatError.wire .length) _))
    (found ≠ header) (reads_throw_bind FormatError.encoding _)
  cases cipher with
  | block size tagSize => exact yields_decodeEncrypted size tagSize
  | clear =>
    exact (yields_decodeClear blobFits).guard (derivation ≠ .none)
      (reads_throw_bind FormatError.cryptographic _)

theorem readable_of_decode {input : Bytes}
    (found : decode input = .ok (.clear check pair comment)) : Readable check pair comment := by
  obtain ⟨⟨key, rest⟩, ran, ends⟩ := bind_eq_ok_iff.1 found
  obtain ⟨_, same⟩ := guard_eq_ok_iff.1 ends
  obtain rfl : key = .clear check pair comment := Except.ok.inj same
  exact yields_decodeFields _ _ _ ran

theorem run_derivation_none (rest : Bytes) :
    KeyDerivation.decode.run (Wire.putText "none" ++ (Wire.putBytes [] ++ rest)) =
      .ok (.none, rest) := by
  have named : KeyDerivation.ofName? "none" = some .none := rfl
  have short : (Text.encode "none").length ≤ Wire.maxLabel := by decide
  refine (((Wire.reads_label KeyDerivation.ofName?).mapError FormatError.wire).run_bind
    ⟨_, named, short, rfl⟩ _ _).trans ?_
  exact ((Wire.reads_length.mapError FormatError.wire).run_bind ⟨Nat.zero_le _, rfl⟩ _ _)

theorem run_decodeFields {key : PublicKey} (wellFormed : key.WellFormed)
    (blobFits : key.encode.length ≤ Wire.maxLength) (rest : Bytes) :
    decodeFields.run (header ++ Wire.putText "none" ++ Wire.putText "none" ++ Wire.putBytes [] ++
      Wire.putWord32 1 ++ Wire.putBytes key.encode ++ rest) = (decodeClear key).run rest := by
  have named : Cipher.ofName? "none" = some .clear := rfl
  have short : (Text.encode "none").length ≤ Wire.maxLabel := by decide
  have one : 1 ≤ Wire.maxLength := by decide
  have keys := Wire.Reads.prefixed PublicKey.reads_decode FormatError.wire
  simp only [List.append_assoc]
  refine (((Wire.reads_raw header.length).mapError FormatError.wire).run_bind ⟨rfl, rfl⟩ _ _).trans ?_
  refine (((Wire.reads_label Cipher.ofName?).mapError FormatError.wire).run_bind
    ⟨_, named, short, rfl⟩ _ _).trans ?_
  refine (run_bind_ok (run_derivation_none _) _).trans ?_
  refine ((Wire.reads_length.mapError FormatError.wire).run_bind ⟨one, rfl⟩ _ _).trans ?_
  exact keys.run_bind ⟨key.encode.length, key.encode, Nat.le_refl _, blobFits,
    ⟨wellFormed, wellFormed.wireForm_encode⟩, rfl⟩ _ _

theorem encodeClear_eq (check : Nat) (pair : Keypair) (comment : String) :
    encodeClear check pair comment =
      header ++ Wire.putText "none" ++ Wire.putText "none" ++ Wire.putBytes [] ++
        Wire.putWord32 1 ++ Wire.putBytes pair.publicKey.encode ++
        Wire.putBytes (encodeBody check pair comment) := rfl

theorem decode_of_body {key : PublicKey} {found : PrivateKey} (wellFormed : key.WellFormed)
    (blobFits : key.encode.length ≤ Wire.maxLength) (form : BodyForm key found body)
    (whole : body.length % blockSize = 0) (fits : body.length ≤ Wire.maxLength) :
    decode (header ++ Wire.putText "none" ++ Wire.putText "none" ++ Wire.putBytes [] ++
      Wire.putWord32 1 ++ Wire.putBytes key.encode ++ Wire.putBytes body) = .ok found := by
  have ran := (reads_decodeClear key _ _ []).2
    ⟨_, ⟨_, form, whole, fits, rfl⟩, (List.append_nil _).symm⟩
  rw [decode, run_decodeFields wellFormed blobFits, ran]
  rfl

theorem decode_encodeClear (readable : Readable check pair comment)
    (fits : (encodeBody check pair comment).length ≤ Wire.maxLength) :
    decode (encodeClear check pair comment) = .ok (.clear check pair comment) := by
  -- The padding is that of the new length, whatever it was in what was read.
  have whole : (encodeBody check pair comment).length % blockSize = 0 := by
    rw [length_encodeBody]
    simp only [blockSize]
    omega
  have form := bodyForm_encodeBody readable.small readable.wellFormed readable.commentFits
  exact decode_of_body readable.wellFormed.publicKey readable.blobFits form whole fits

theorem decode_encodeClear_overflow (readable : Readable check pair comment)
    (long : Wire.maxLength < (encodeBody check pair comment).length) :
    decode (encodeClear check pair comment) = .error (.wire .overflow) := by
  have bounded : (encodeBody check pair comment).length < UInt32.size := by
    rcases readable.body with fits | ⟨_, size⟩
    · omega
    · rw [size]
      decide
  have body : (decodeClear pair.publicKey).run (Wire.putBytes (encodeBody check pair comment)) =
      .error (.wire .overflow) := by
    have overflow := Wire.length_run_overflow long bounded (encodeBody check pair comment)
    have lifted : (Wire.length.mapError FormatError.wire).run
        (Wire.putBytes (encodeBody check pair comment)) = .error (.wire .overflow) :=
      congrArg (Except.mapError FormatError.wire) overflow
    exact run_bind_error lifted _
  rw [decode, encodeClear_eq,
    run_decodeFields readable.wellFormed.publicKey readable.blobFits, body]
  rfl

end PrivateKey

end SoleKey
