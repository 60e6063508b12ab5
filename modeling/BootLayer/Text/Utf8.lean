/-!
Byte strings and their reading as UTF-8.  A byte string reads as text exactly when it is the
encoding of some text, and then it is the encoding of the text it reads as (`encode_decode`,
`decode_encode`).
-/

namespace BootLayer

/-- A byte string. -/
abbrev Bytes : Type := List UInt8

namespace Text.Utf8

/-- The UTF-8 bytes of a text. -/
def encode (text : String) : Bytes := text.toUTF8.data.toList

/-- The text with these UTF-8 bytes, if there is one. -/
def decode (bytes : Bytes) : Option String := String.fromUTF8? ⟨bytes.toArray⟩

theorem decode_encode (text : String) : decode (encode text) = some text := by
  have h : (⟨text.toUTF8.data.toList.toArray⟩ : ByteArray) = text.toByteArray := by simp
  unfold decode encode String.fromUTF8?
  rw [h]
  simp [String.fromUTF8, text.isValidUTF8]

theorem encode_decode {bytes : Bytes} {text : String} (h : decode bytes = some text) :
    encode text = bytes := by
  unfold decode String.fromUTF8? at h
  split at h
  · cases h
    simp [encode, String.fromUTF8]
  · cases h

end Text.Utf8

end BootLayer
