import SoleKey.Proofs.PublicKey
import SoleKey.Request

set_option autoImplicit false

namespace SoleKey.Request

open Decoder

-- The length of the key string may go past the key: what it counts too much is then read as the
-- start of the data.
def SignBody (key : PublicKey) (data : Bytes) (flags : SignatureFlags) (body : Bytes) : Prop :=
  ∃ count form bits rest, key.WireForm form ∧ form.length ≤ count ∧ count ≤ Wire.maxLength ∧
    data.length ≤ Wire.maxLength ∧ bits < UInt32.size ∧ flags = ⟨UInt32.ofNat bits⟩ ∧
    body = 13 :: (Wire.putWord32 count ++ form ++ Wire.putBytes data ++ Wire.putWord32 bits ++ rest)

def IsSign : Request → Prop
  | .sign .. => True
  | _ => False

theorem IsSign.eq_sign {request : Request} (sign : request.IsSign) :
    ∃ key data flags, request = .sign key data flags := by
  cases request with
  | sign key data flags => exact ⟨key, data, flags, rfl⟩
  | list | add | addConstrained | remove | removeAll | smartcard | lock | unlock | extension =>
    exact sign.elim

theorem reads_decodeSign : Reads decodeSign fun value taken =>
    ∃ key data bits count form, value = .sign key data ⟨UInt32.ofNat bits⟩ ∧ key.WellFormed ∧
      key.WireForm form ∧ form.length ≤ count ∧ count ≤ Wire.maxLength ∧
      data.length ≤ Wire.maxLength ∧ bits < UInt32.size ∧
      taken = Wire.putWord32 count ++ form ++ Wire.putBytes data ++ Wire.putWord32 bits := by
  have readsKey : Reads PublicKey.decodePrefixed _ :=
    Wire.Reads.prefixed PublicKey.reads_decode FormatError.wire
  refine ((readsKey.mapError RequestError.key).bind fun key =>
    (Wire.reads_bytes.mapError RequestError.wire).bind fun data =>
      (Wire.reads_word32.mapError RequestError.wire).bind fun bits =>
        reads_pure (Request.sign key data ⟨UInt32.ofNat bits⟩)).congr ?_
  intro value taken
  constructor
  · rintro ⟨key, _, _, ⟨count, form, inside, fits, ⟨wellFormed, reads⟩, rfl⟩, ⟨data, _, _,
      ⟨short, rfl⟩, ⟨bits, _, _, ⟨small, rfl⟩, ⟨rfl, rfl⟩, rfl⟩, rfl⟩, rfl⟩
    exact ⟨key, data, bits, count, form, rfl, wellFormed, reads, inside, fits, short, small,
      by simp⟩
  · rintro ⟨key, data, bits, count, form, rfl, wellFormed, reads, inside, fits, short, small, rfl⟩
    exact ⟨key, _, _, ⟨count, form, inside, fits, ⟨wellFormed, reads⟩, rfl⟩, ⟨data, _, _,
      ⟨short, rfl⟩, ⟨bits, _, [], ⟨small, rfl⟩, ⟨rfl, rfl⟩, rfl⟩, rfl⟩, by simp⟩

theorem decode_nil : decode [] = .error (.wire .length) := rfl

theorem decode_cons (command : UInt8) (rest : Bytes) :
    decode (command :: rest) = (decodeFields command).value rest := rfl

def commands : Request → List UInt8
  | .list => [11]
  | .sign .. => [13]
  | .add _ => [17]
  | .remove _ => [18]
  | .removeAll => [19]
  | .smartcard .. => [20, 21, 26]
  | .lock _ => [22]
  | .unlock _ => [23]
  | .addConstrained _ => [25]
  | .extension _ => [27]

theorem yields_smartcard :
    Yields decodeSmartcard fun request => request.commands = [20, 21, 26] :=
  (yields_true _).bind fun _ _ => (yields_true _).bind fun _ _ => yields_pure rfl

-- One case for each command, and one for the bytes that are none.
theorem yields_command (command : UInt8) :
    Yields (decodeFields command) fun request => command ∈ request.commands := by
  unfold decodeFields
  split
  · exact yields_pure (by simp [commands])
  · exact (yields_true _).bind fun key _ => (yields_true _).bind fun data _ =>
      (yields_true _).bind fun flags _ => yields_pure (by simp [commands])
  · exact (yields_true _).bind fun offer _ => yields_pure (by simp [commands])
  · exact (yields_true _).bind fun key _ => yields_pure (by simp [commands])
  · exact yields_pure (by simp [commands])
  · exact yields_smartcard.weaken fun request same => by simp [same]
  · exact yields_smartcard.weaken fun request same => by simp [same]
  · exact (yields_true _).bind fun passphrase _ => yields_pure (by simp [commands])
  · exact (yields_true _).bind fun passphrase _ => yields_pure (by simp [commands])
  · exact (yields_true _).bind fun offer _ => (yields_true _).bind fun _ _ =>
      yields_pure (by simp [commands])
  · exact yields_smartcard.bind fun request same => (yields_true _).bind fun _ _ =>
      yields_pure (by simp [same])
  · exact (yields_true _).bind fun name _ => (yields_true _).bind fun details _ =>
      (yields_true _).bind fun _ _ => yields_pure (by simp [commands])
  · exact yields_throw _ _

theorem command_of_decode {body : Bytes} {request : Request} (found : decode body = .ok request) :
    ∃ command ∈ request.commands, body.head? = some command := by
  cases body with
  | nil => simp [decode_nil] at found
  | cons command rest =>
    rw [decode_cons] at found
    exact ⟨command, (yields_command command).value found, rfl⟩

theorem isSign_of_head {body : Bytes} {request : Request} (found : decode body = .ok request)
    (sign : body.head? = some 13) : request.IsSign := by
  obtain ⟨command, known, first⟩ := command_of_decode found
  obtain rfl : command = 13 := Option.some.inj (first.symm.trans sign)
  cases request <;> simp [commands, IsSign] at known ⊢

theorem decode_eq_sign_iff {body : Bytes} {key : PublicKey} {data : Bytes}
    {flags : SignatureFlags} :
    decode body = .ok (.sign key data flags) ↔ key.WellFormed ∧ SignBody key data flags body := by
  constructor
  · intro found
    obtain ⟨command, known, first⟩ := command_of_decode found
    obtain rfl : command = 13 := by simpa [commands] using known
    obtain ⟨rest, rfl⟩ := List.head?_eq_some_iff.1 first
    rw [decode_cons] at found
    obtain ⟨taken, left, ⟨_, _, bits, count, form, same, wellFormed, reads, inside, fits, short,
      small, rfl⟩, rfl⟩ := reads_decodeSign.value.1 found
    obtain ⟨rfl, rfl, rfl⟩ := Request.sign.inj same
    exact ⟨wellFormed, count, form, bits, left, reads, inside, fits, short, small, rfl, rfl⟩
  · rintro ⟨wellFormed, count, form, bits, rest, reads, inside, fits, short, small, rfl, rfl⟩
    rw [decode_cons]
    exact reads_decodeSign.value.2 ⟨_, rest, ⟨key, data, bits, count, form, rfl, wellFormed, reads,
      inside, fits, short, small, rfl⟩, rfl⟩

end SoleKey.Request
