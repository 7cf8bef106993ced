/-!
# Replacing a pattern in a text

`replaceAll` replaces every occurrence of a pattern, from left to right and without
overlaps. Inserted text is not searched again.
-/

namespace DeviceConfig.Text

/-- The text with every occurrence of the target replaced. An empty target occurs
nowhere. -/
def replaceAll (target replacement : List Char) : List Char → List Char
  | [] => []
  | c :: rest =>
    if target ≠ [] ∧ target.isPrefixOf (c :: rest) then
      replacement ++ replaceAll target replacement (rest.drop (target.length - 1))
    else
      c :: replaceAll target replacement rest
termination_by text => text.length
decreasing_by
  · simp only [List.length_drop, List.length_cons]; omega
  · simp

@[simp] theorem replaceAll_nil (target replacement : List Char) :
    replaceAll target replacement [] = [] := by
  rw [replaceAll]

/-- Where the target stands it is replaced, and the search goes on behind it. -/
theorem replaceAll_append {target : List Char} (h : target ≠ []) (replacement rest : List Char) :
    replaceAll target replacement (target ++ rest) =
      replacement ++ replaceAll target replacement rest := by
  cases target with
  | nil => exact absurd rfl h
  | cons t target =>
      rw [List.cons_append, replaceAll,
        if_pos ⟨by simp, by simp [List.isPrefixOf_iff_prefix]⟩]
      simp

/-- Where the target does not stand one character is kept. -/
theorem replaceAll_cons {target : List Char} {c : Char} {rest : List Char}
    (h : ¬ target <+: c :: rest) (replacement : List Char) :
    replaceAll target replacement (c :: rest) = c :: replaceAll target replacement rest := by
  rw [replaceAll, if_neg (by simp [List.isPrefixOf_iff_prefix, h])]

end DeviceConfig.Text
