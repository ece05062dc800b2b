/-!
# Values read off the front of a text

A reader takes a value off the front of the text and leaves the rest.  That the
rest is no longer than the text is part of its result, so every loop over readers
ends.
-/

namespace LineExtraction

/-- A value read off the front of `text`, and the text behind it. -/
structure Read (α : Type) (text : List Char) where
  value : α
  rest : List Char
  shorter : rest.length ≤ text.length

namespace Read

/-- Read the same value off a text that is at least as long. -/
def weaken {α : Type} {text longer : List Char} (read : Read α text)
    (bound : text.length ≤ longer.length) : Read α longer :=
  ⟨read.value, read.rest, Nat.le_trans read.shorter bound⟩

/-- Change the value that was read. -/
def map {α β : Type} {text : List Char} (change : α → β) (read : Read α text) :
    Read β text :=
  ⟨change read.value, read.rest, read.shorter⟩

/-! ## How much was taken

A reader that takes a few characters itself bounds its rest by one of these. -/

theorem took_none (text : List Char) : text.length ≤ text.length := Nat.le_refl _

theorem took_one (rest : List Char) : rest.length ≤ rest.length + 1 := Nat.le_add_right _ 1

theorem took_two (rest : List Char) : rest.length ≤ rest.length + 2 := Nat.le_add_right _ 2

theorem took_three (rest : List Char) : rest.length ≤ rest.length + 3 := Nat.le_add_right _ 3

/-- A reader that looks at a character leaves it where it is. -/
theorem left_one (rest : List Char) : rest.length + 1 ≤ rest.length + 1 := Nat.le_refl _

/-- What stands behind the next character is shorter than the text. -/
theorem length_lt {α : Type} {text rest : List Char} {first : Char} (read : Read α text)
    (left : read.rest = first :: rest) : rest.length < text.length := by
  have bound := read.shorter
  rw [left, List.length_cons] at bound
  omega

theorem length_le {α : Type} {text rest : List Char} {first : Char} (read : Read α text)
    (left : read.rest = first :: rest) : rest.length ≤ text.length :=
  Nat.le_of_lt (read.length_lt left)

/-- At the end of the text there is nothing to take. -/
theorem left_nothing : ([] : List Char).length ≤ ([] : List Char).length := Nat.le_refl _

end Read
end LineExtraction
