import DeviceConfig.Text.Utf8
import Mathlib.Data.List.Basic

/-!
# Cutting texts in UTF-8

No character starts within the bytes of another one, so the bytes of a text say with what it
starts and where it can be cut.
-/

namespace DeviceConfig

/-- The bytes of a text start with those of another one only if it starts with that text. -/
theorem Text.encode_prefix_iff {text other : List Char} :
    encode other <+: encode text ↔ other <+: text := by
  constructor
  · rintro ⟨bytes, hbytes⟩
    have hutf8 := congrArg List.toByteArray hbytes
    rw [List.toByteArray_append] at hutf8
    exact List.isPrefix_of_utf8Encode_append_eq_utf8Encode _ hutf8
  · rintro ⟨more, rfl⟩
    rw [encode_append]
    exact List.prefix_append _ _

/-! ## Boundaries -/

theorem charBoundary_append_iff {front rest : List UInt8} {offset : Nat} :
    CharBoundary (front ++ rest) (front.length + offset) ↔ CharBoundary rest offset := by
  constructor
  · rintro ⟨hle, hstarts⟩
    rw [List.length_append] at hle
    refine ⟨by omega, fun h => ?_⟩
    have hbyte := hstarts (by rw [List.length_append]; omega)
    rw [List.getElem_append_right (Nat.le_add_right _ _)] at hbyte
    simpa using hbyte
  · rintro ⟨hle, hstarts⟩
    refine ⟨by rw [List.length_append]; omega, fun h => ?_⟩
    rw [List.getElem_append_right (Nat.le_add_right _ _)]
    rw [List.length_append] at h
    simpa using hstarts (by omega)

theorem charBoundary_encode_zero (text : List Char) : CharBoundary (Text.encode text) 0 := by
  refine ⟨Nat.zero_le _, fun h => ?_⟩
  cases text with
  | nil => simp at h
  | cons c rest =>
      simp only [Text.encode_cons]
      rw [List.getElem_append_left (List.length_pos_iff.mpr String.utf8EncodeChar_ne_nil)]
      exact UInt8.isUTF8FirstByte_getElem_zero_utf8EncodeChar

/-- The bytes of a text can be cut where the text can, and nowhere else. -/
theorem charBoundary_encode_iff {text : List Char} {offset : Nat} :
    CharBoundary (Text.encode text) offset ↔
      ∃ front back, text = front ++ back ∧ offset = (Text.encode front).length := by
  constructor
  · intro h
    induction text generalizing offset with
    | nil => exact ⟨[], [], rfl, Nat.le_zero.mp h.le_length⟩
    | cons c rest ih =>
        by_cases hzero : offset = 0
        · exact ⟨[], c :: rest, rfl, hzero⟩
        · -- Of the bytes of the first character only the first one starts a character.
          have hbehind : (String.utf8EncodeChar c).length ≤ offset := by
            by_contra hwithin
            have hbyte := h.starts (by rw [Text.encode_cons, List.length_append]; omega)
            simp only [Text.encode_cons] at hbyte
            rw [List.getElem_append_left (by omega)] at hbyte
            exact hzero (UInt8.isUTF8FirstByte_getElem_utf8EncodeChar.mp hbyte)
          obtain ⟨later, rfl⟩ := Nat.exists_eq_add_of_le hbehind
          obtain ⟨front, back, rfl, rfl⟩ := ih (charBoundary_append_iff.mp h)
          exact ⟨c :: front, back, rfl, by rw [Text.encode_cons, List.length_append]⟩
  · rintro ⟨front, back, rfl, rfl⟩
    rw [Text.encode_append]
    exact charBoundary_append_iff.mpr (charBoundary_encode_zero back)

end DeviceConfig
