import SoleKey.Bytes

set_option autoImplicit false

namespace SoleKey.Text

def encode (text : String) : Bytes :=
  text.toUTF8.data.toList

def decode? (bytes : Bytes) : Option String :=
  String.fromUTF8? ⟨bytes.toArray⟩

def byteLength (text : String) : Nat :=
  text.utf8ByteSize

@[simp] theorem decode?_encode (text : String) : decode? (encode text) = some text := by
  have bytes : (⟨(encode text).toArray⟩ : ByteArray) = text.toByteArray := by
    simp [encode]
  simp only [decode?, bytes, String.fromUTF8?]
  split
  · rename_i valid
    simp [String.fromUTF8]
  · rename_i invalid
    exact absurd (by simpa using text.isValidUTF8) invalid

theorem encode_of_decode? {bytes : Bytes} {text : String} (found : decode? bytes = some text) :
    encode text = bytes := by
  unfold decode? String.fromUTF8? at found
  split at found
  · rename_i valid
    simp only [Option.some.injEq] at found
    subst found
    simp [encode, String.fromUTF8]
  · simp at found

theorem decode?_eq_some_iff {bytes : Bytes} {text : String} :
    decode? bytes = some text ↔ bytes = encode text :=
  ⟨fun found => (encode_of_decode? found).symm, fun same => same ▸ decode?_encode text⟩

end SoleKey.Text
