import Panes.Json.Printer

/-!
# Printed values as lines

A printed value stands on one line, and an object stands between braces. Line ends within texts are
escaped, and nothing else that is printed could be one.
-/

namespace Panes.Json

/-! ## Line ends -/

theorem newline_notMem_toDigits (number : Nat) : '\n' ∉ Nat.toDigits 10 number := by
  intro member
  have digit := Nat.isDigit_of_mem_toDigits (by decide) (by decide) member
  revert digit
  decide

theorem newline_notMem_exponentChars (exponent : Int) :
    '\n' ∉ exponentChars layout exponent := by
  have repr : '\n' ∉ exponent.repr.toList := by
    rw [Int.repr_eq_if]
    split <;> simp [Nat.repr, newline_notMem_toDigits]
  simp only [exponentChars, layout, List.mem_cons, List.mem_append, not_or]
  refine ⟨by decide, ?_, repr⟩
  split <;> simp

theorem newline_notMem_decimalChars {digits : List Char} (ordinary : '\n' ∉ digits)
    (exponent : Int) : '\n' ∉ decimalChars layout digits exponent := by
  have front (count : Nat) : '\n' ∉ digits.take count := fun member =>
    ordinary (List.mem_of_mem_take member)
  have back (count : Nat) : '\n' ∉ digits.drop count := fun member =>
    ordinary (List.mem_of_mem_drop member)
  unfold decimalChars
  dsimp only
  split
  · simp [ordinary]
  split
  · simp [front, back]
  split
  · simp [ordinary]
  · have fraction : '\n' ∉ if (digits.drop 1).isEmpty then [] else '.' :: digits.drop 1 := by
      split
      · exact List.not_mem_nil
      · exact List.not_mem_cons_of_ne_of_not_mem (by decide) (back 1)
    simp only [List.mem_append, not_or]
    exact ⟨⟨front 1, fraction⟩, newline_notMem_exponentChars _⟩

theorem Number.newline_notMem_chars (number : Number) : '\n' ∉ number.chars := by
  cases number with
  | int value =>
    have digits := newline_notMem_toDigits value.natAbs
    rw [chars]
    split
    · exact List.not_mem_cons_of_ne_of_not_mem (by decide) digits
    · exact digits
  | decimal value =>
    have digits := newline_notMem_decimalChars (newline_notMem_toDigits value.digits)
    rw [chars]
    simp only [List.mem_append, not_or]
    refine ⟨by split <;> simp, ?_⟩
    split
    · decide
    · exact digits _

/-- A line end within a text is escaped. -/
theorem newline_notMem_escapeChar (char : Char) : '\n' ∉ escapeChar char := by
  have hexadecimal (value : Nat) : hexDigit value ≠ '\n' :=
    (by decide : ∀ digit < 16, Nat.digitChar digit ≠ '\n') _ (Nat.mod_lt _ (by decide))
  unfold escapeChar
  split
  case h_6 ordinary _ _ =>
    repeat' split
    · decide
    · decide
    · simp [(hexadecimal _).symm]
    · simpa using fun same => ordinary same.symm
  all_goals decide

theorem newline_notMem_stringChars (text : String) : '\n' ∉ stringChars text := by
  simp [stringChars, newline_notMem_escapeChar]

mutual

/-- A printed value holds no line end. -/
theorem newline_notMem_chars : ∀ json : Json, '\n' ∉ json.chars
  | null | bool true | bool false => by decide
  | number value => value.newline_notMem_chars
  | string text => newline_notMem_stringChars text
  | array [] | object [] => by decide
  | array (element :: elements) => by
    simp [chars, newline_notMem_chars element, newline_notMem_elementChars elements]
  | object ((key, value) :: members) => by
    simp [chars, newline_notMem_stringChars, newline_notMem_chars value,
      newline_notMem_memberChars members]

theorem newline_notMem_elementChars : ∀ elements : List Json, '\n' ∉ elementChars elements
  | [] => by decide
  | element :: elements => by
    simp [elementChars, newline_notMem_chars element, newline_notMem_elementChars elements]

theorem newline_notMem_memberChars :
    ∀ members : List (String × Json), '\n' ∉ memberChars members
  | [] => by decide
  | (key, value) :: members => by
    simp [memberChars, newline_notMem_stringChars, newline_notMem_chars value,
      newline_notMem_memberChars members]

end

/-! ## Braces -/

theorem memberChars_eq (members : List (String × Json)) :
    ∃ inner, memberChars members = inner ++ ['}'] := by
  induction members with
  | nil => exact ⟨[], rfl⟩
  | cons member members ih =>
    obtain ⟨key, value⟩ := member
    obtain ⟨inner, inner_eq⟩ := ih
    exact ⟨',' :: (stringChars key ++ ':' :: (chars value ++ inner)), by
      simp [memberChars, inner_eq]⟩

/-- An object stands between braces. -/
theorem chars_object (members : List (String × Json)) :
    ∃ inner, (object members).chars = '{' :: (inner ++ ['}']) := by
  cases members with
  | nil => exact ⟨[], rfl⟩
  | cons member members =>
    obtain ⟨key, value⟩ := member
    obtain ⟨inner, inner_eq⟩ := memberChars_eq members
    exact ⟨stringChars key ++ ':' :: (chars value ++ inner), by simp [chars, inner_eq]⟩

end Panes.Json
