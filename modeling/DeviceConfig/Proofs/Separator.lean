import Mathlib.Data.List.Basic

/-!
# Texts joined with a separator

A separator between two texts need not be the only one in the joined text. Where it is
taken to stand decides which texts are read; they are the same ones again if one of them
cannot hold the separator.
-/

namespace DeviceConfig

/-- In one text two separators are the same one, or a middle part lies between them. -/
theorem append_cons_eq_append_cons {α : Type} {x : α} {a b c d : List α}
    (h : a ++ x :: b = c ++ x :: d) :
    (a = c ∧ b = d) ∨ (∃ middle, c = a ++ x :: middle ∧ b = middle ++ x :: d) ∨
      ∃ middle, a = c ++ x :: middle ∧ d = middle ++ x :: b := by
  rcases List.append_eq_append_iff.mp h with ⟨middle, rfl, hmiddle⟩ | ⟨middle, rfl, hmiddle⟩
  · cases middle with
    | nil => exact .inl ⟨by simp, (List.cons.inj hmiddle).2⟩
    | cons y middle =>
        obtain ⟨rfl, rfl⟩ := List.cons.inj hmiddle
        exact .inr (.inl ⟨middle, rfl, rfl⟩)
  · cases middle with
    | nil => exact .inl ⟨by simp, (List.cons.inj hmiddle).2.symm⟩
    | cons y middle =>
        obtain ⟨rfl, rfl⟩ := List.cons.inj hmiddle
        exact .inr (.inr ⟨middle, rfl, rfl⟩)

/-- Texts without the separator can be read back in front of it. -/
theorem eq_and_eq_of_append_cons_left {α : Type} {x : α} {a b c d : List α} (ha : x ∉ a)
    (hc : x ∉ c) (h : a ++ x :: b = c ++ x :: d) : a = c ∧ b = d := by
  rcases append_cons_eq_append_cons h with hsame | ⟨middle, rfl, -⟩ | ⟨middle, rfl, -⟩
  · exact hsame
  · simp at hc
  · simp at ha

/-- Texts without the separator can be read back behind it. -/
theorem eq_and_eq_of_append_cons_right {α : Type} {x : α} {a b c d : List α} (hb : x ∉ b)
    (hd : x ∉ d) (h : a ++ x :: b = c ++ x :: d) : a = c ∧ b = d := by
  rcases append_cons_eq_append_cons h with hsame | ⟨middle, -, rfl⟩ | ⟨middle, -, rfl⟩
  · exact hsame
  · simp at hb
  · simp at hd

end DeviceConfig
