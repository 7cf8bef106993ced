/-!
# Texts in UTF-8

The bytes of a text are those of its characters, one after the other. They can be cut where
a character starts.
-/

namespace DeviceConfig

namespace Text

/-- The UTF-8 bytes of characters, one after the other. -/
def encode (text : List Char) : List UInt8 :=
  text.flatMap String.utf8EncodeChar

@[simp] theorem encode_nil : encode [] = [] :=
  rfl

@[simp] theorem encode_cons (c : Char) (text : List Char) :
    encode (c :: text) = String.utf8EncodeChar c ++ encode text :=
  rfl

@[simp] theorem encode_append (text rest : List Char) :
    encode (text ++ rest) = encode text ++ encode rest :=
  List.flatMap_append

theorem encode_flatMap {α : Type} (parts : List α) (text : α → List Char) :
    encode (parts.flatMap text) = parts.flatMap fun part => encode (text part) :=
  List.flatMap_assoc

end Text

/-- The UTF-8 bytes of a text. -/
def utf8Bytes (text : String) : List UInt8 :=
  text.toUTF8.data.toList

theorem encode_toList (text : String) : Text.encode text.toList = utf8Bytes text := by
  rw [utf8Bytes, String.toUTF8, ← String.utf8Encode_toList, List.utf8Encode,
    List.data_toByteArray]
  rfl

theorem length_utf8Bytes (text : String) : (utf8Bytes text).length = text.utf8ByteSize :=
  rfl

/-- An offset at which bytes can be cut: it lies neither behind their end nor within a
character. -/
structure CharBoundary (bytes : List UInt8) (offset : Nat) : Prop where
  le_length : offset ≤ bytes.length
  starts : ∀ h : offset < bytes.length, bytes[offset].IsUTF8FirstByte

instance (bytes : List UInt8) (offset : Nat) : Decidable (CharBoundary bytes offset) :=
  decidable_of_iff
    (offset ≤ bytes.length ∧ ∀ h : offset < bytes.length, bytes[offset].IsUTF8FirstByte)
    ⟨fun h => ⟨h.1, h.2⟩, fun h => ⟨h.le_length, h.starts⟩⟩

end DeviceConfig
