import Mathlib.Data.List.DropRight
import Panes.Text.Blank

/-!
# Trimming

What stands between blanks is left when they are trimmed, if it neither starts nor ends with one.
What is left of any text is a part of it that does neither.
-/

namespace Panes.Text

variable {text rest : List Char} {first : Char}

theorem trimStart_blank {blanks : List Char} (blank : ∀ char ∈ blanks, isBlank char = true)
    {first : Char} (visible : isBlank first = false) (text : List Char) :
    trimStart (blanks ++ first :: text) = first :: text := by
  rw [trimStart, List.dropWhile_append_of_pos blank, List.dropWhile_cons_of_neg (by simp [visible])]

theorem trimEnd_blank {blanks : List Char} (blank : ∀ char ∈ blanks, isBlank char = true)
    {last : Char} (visible : isBlank last = false) (text : List Char) :
    trimEnd (text ++ [last] ++ blanks) = text ++ [last] := by
  have reversed : (text ++ [last] ++ blanks).reverse = blanks.reverse ++ last :: text.reverse := by
    simp
  have blank : ∀ char ∈ blanks.reverse, isBlank char = true := by simpa using blank
  have left := trimStart_blank blank visible text.reverse
  rw [trimStart] at left
  rw [trimEnd, reversed, left]
  simp

/-- Blanks around a text are trimmed. -/
theorem trim_blanks {left right : List Char} (blank : ∀ char ∈ left ++ right, isBlank char = true)
    {first last : Char} (starts : isBlank first = false) (ends : isBlank last = false)
    (inner : List Char) :
    trim (left ++ first :: (inner ++ [last]) ++ right) = first :: (inner ++ [last]) := by
  have before : ∀ char ∈ left, isBlank char = true := fun char member =>
    blank char (List.mem_append_left right member)
  have behind : ∀ char ∈ right, isBlank char = true := fun char member =>
    blank char (List.mem_append_right left member)
  have cut := trimStart_blank before starts (inner ++ [last] ++ right)
  have trimmed := trimEnd_blank behind ends (first :: inner)
  simp only [List.append_assoc, List.cons_append] at cut trimmed ⊢
  rw [trim, cut, trimmed]

/-! ## Any text -/

theorem trimEnd_eq (text : List Char) : trimEnd text = text.rdropWhile isBlank := rfl

theorem trim_subset (text : List Char) : trim text ⊆ text := fun _ member =>
  (List.dropWhile_sublist isBlank).subset ((List.rdropWhile_prefix isBlank _).subset member)

theorem isBlank_of_trimStart (left : trimStart text = first :: rest) : isBlank first = false := by
  have visible := List.head?_dropWhile_not isBlank text
  rw [← trimStart, left] at visible
  exact visible

/-- What is left does not start with a blank. -/
theorem isBlank_of_trim (left : trim text = first :: rest) : isBlank first = false := by
  obtain ⟨blanks, split⟩ : trim text <+: trimStart text := List.rdropWhile_prefix isBlank _
  rw [left, List.cons_append] at split
  exact isBlank_of_trimStart split.symm

/-- A text that does not start with a blank is what is left of it and blanks, and what is left does
not end with a blank either. -/
theorem trim_of_visible (visible : isBlank first = false) (rest : List Char) :
    ∃ blanks, first :: rest = trim (first :: rest) ++ blanks ∧
      (∀ char ∈ blanks, isBlank char = true) ∧
      ∃ last ∈ (trim (first :: rest)).getLast?, isBlank last = false := by
  have started : trimStart (first :: rest) = first :: rest :=
    trimStart_blank (List.forall_mem_nil _) visible rest
  rw [trim, started, trimEnd_eq]
  have remains : (first :: rest).rdropWhile isBlank ≠ [] := by
    rw [Ne, List.rdropWhile_eq_nil_iff]
    intro blank
    rw [blank first List.mem_cons_self] at visible
    cases visible
  refine ⟨(first :: rest).rtakeWhile isBlank, List.rdropWhile_append_rtakeWhile.symm,
    fun _ => List.mem_rtakeWhile_imp, _, List.getLast?_eq_getLast_of_ne_nil remains, ?_⟩
  exact Bool.not_eq_true _ ▸ List.rdropWhile_last_not isBlank _ remains

end Panes.Text
