/-!
# Placeholders

A placeholder is two opening braces, some content and two closing braces.
-/

namespace DeviceConfig

/-- What opens a placeholder. -/
def opening : List Char := ['{', '{']

/-- What closes a placeholder. -/
def closing : List Char := ['}', '}']

/-- The placeholder with the given content. -/
def placeholder (content : List Char) : List Char :=
  opening ++ content ++ closing

@[simp] theorem length_placeholder (content : List Char) :
    (placeholder content).length = content.length + 4 := by
  simp [placeholder, opening, closing]

theorem placeholder_ne_nil (content : List Char) : placeholder content ≠ [] := by
  simp [placeholder, opening]

end DeviceConfig
