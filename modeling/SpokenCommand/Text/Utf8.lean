/-!
# UTF-8

Texts travel as bytes. `encode` writes a text, `decode?` reads the bytes back and refuses those that
are no UTF-8.
-/

namespace SpokenCommand.Text.Utf8

def encode (s : String) : List UInt8 := s.toUTF8.data.toList

def decode? (bytes : List UInt8) : Option String := String.fromUTF8? ⟨bytes.toArray⟩

theorem decode?_encode (s : String) : decode? (encode s) = some s := by
  have h : ByteArray.mk s.toUTF8.data.toList.toArray = s.toUTF8 := by simp
  simp only [decode?, encode, h]
  simp only [String.fromUTF8?, String.toUTF8_eq_toByteArray, dif_pos s.isValidUTF8]
  rfl

end SpokenCommand.Text.Utf8
