/-!
# UTF-8

Texts as lists of bytes and back.

* `decode?_encode`: the bytes of a text are read as that text.
-/

namespace TextShell.Text

/-- The bytes of a text. -/
def encode (text : String) : List UInt8 := text.toUTF8.data.toList

/-- The text with the given bytes, if they are UTF-8. -/
def decode? (bytes : List UInt8) : Option String := String.fromUTF8? ⟨bytes.toArray⟩

/-- The bytes of a text are read as that text. -/
@[simp]
theorem fromUTF8?_toUTF8 (text : String) : String.fromUTF8? text.toUTF8 = some text := by
  have hvalid : text.toUTF8.IsValidUTF8 := text.isValidUTF8
  rw [String.fromUTF8?, dif_pos hvalid]
  rfl

/-- A text that is read has the bytes that it was read from. -/
theorem toUTF8_of_fromUTF8? {bytes : ByteArray} {text : String}
    (h : String.fromUTF8? bytes = some text) : text.toUTF8 = bytes := by
  unfold String.fromUTF8? at h
  split at h
  next =>
    rw [← Option.some.inj h]
    rfl
  next => cases h

/-- What is written as bytes can be read again. -/
@[simp]
theorem decode?_encode (text : String) : decode? (encode text) = some text := by
  have hbytes : (⟨(encode text).toArray⟩ : ByteArray) = text.toUTF8 := by
    simp [encode]
  rw [decode?, hbytes, fromUTF8?_toUTF8]

end TextShell.Text
