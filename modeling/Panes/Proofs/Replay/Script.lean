import Mathlib.Data.List.Basic
import Panes.Proofs.Text.Utf8
import Panes.Replay

/-!
# The lines of a script

The octet of a line end occurs only where a line ends. So a written text falls into lines exactly
where the text itself does. Whether the last line is closed makes no difference: what is left behind
the last line end is blank, and a blank line asks for nothing.
-/

namespace Panes.Text.Utf8

/-! ## Line ends -/

/-- No other character has the octet that ends a line. -/
theorem lineEnd_notMem_encodeChar {char : Char} (other : char ≠ '\n') :
    Replay.lineEnd ∉ encodeChar char := by
  refine octet_notMem_encodeChar (by decide) fun code => other ?_
  rw [← Char.ofNat_toNat char, code]
  rfl

theorem lineEnd_notMem_encode {line : List Char} (unbroken : '\n' ∉ line) :
    Replay.lineEnd ∉ encode line := by
  intro member
  obtain ⟨char, inside, own⟩ := List.mem_flatMap.mp member
  exact lineEnd_notMem_encodeChar (fun same => unbroken (same ▸ inside)) own

end Panes.Text.Utf8

namespace Panes.Replay

open Text

/-- The lines of a text. -/
def linesOf (text : List Char) : List (List Char) := text.splitOn '\n'

/-- A text is its lines, each closed but the last one. -/
theorem exists_linesOf (text : List Char) : ∃ closed last, linesOf text = closed ++ [last] ∧
    text = closed.flatMap (· ++ ['\n']) ++ last ∧ '\n' ∉ last ∧ ∀ line ∈ closed, '\n' ∉ line := by
  unfold linesOf List.splitOn
  induction text with
  | nil => exact ⟨[], [], rfl, rfl, by simp, by simp⟩
  | cons char text ih =>
    obtain ⟨closed, last, split_eq, text_eq, last_unbroken, closed_unbroken⟩ := ih
    rw [List.splitOnP_cons_eq_if_modifyHead, split_eq]
    by_cases newline : char = '\n'
    · refine ⟨[] :: closed, last, by simp [newline], ?_, last_unbroken, ?_⟩
      · rw [newline, text_eq]
        rfl
      · simpa using closed_unbroken
    · cases closed with
      | nil => exact ⟨[], char :: last, by simp [newline], by simp [text_eq],
          by simp [last_unbroken, Ne.symm newline], by simp⟩
      | cons line closed =>
        refine ⟨(char :: line) :: closed, last, by simp [newline], by simp [text_eq],
          last_unbroken, ?_⟩
        simpa [Ne.symm newline] using closed_unbroken

theorem splitLines_append {front : List UInt8} (inside : lineEnd ∉ front)
    (line rest : List UInt8) :
    splitLines line (front ++ rest) = splitLines (front.reverse ++ line) rest := by
  induction front generalizing line with
  | nil => rfl
  | cons octet front ih =>
    have ordinary : octet ≠ lineEnd := fun same => inside (by simp [same])
    rw [List.cons_append, splitLines, if_neg ordinary, ih fun later => inside (by simp [later])]
    simp

/-- Closed lines are cut off one by one. -/
theorem splitLines_closed {lines : List (List Char)} (unbroken : ∀ line ∈ lines, '\n' ∉ line)
    (later : List UInt8) :
    splitLines [] (Utf8.encode (lines.flatMap (· ++ ['\n'])) ++ later) =
      lines.map Utf8.encode ++ splitLines [] later := by
  induction lines with
  | nil => rfl
  | cons line lines ih =>
    have first := Utf8.lineEnd_notMem_encode (unbroken line (by simp))
    have closing : Utf8.encode ['\n'] = [lineEnd] := rfl
    rw [List.flatMap_cons, Utf8.encode_append, Utf8.encode_append, closing, List.append_assoc,
      List.append_assoc, splitLines_append first, List.append_nil, List.cons_append,
      List.nil_append, splitLines, if_pos rfl, List.reverse_reverse,
      ih fun other member => unbroken other (by simp [member])]
    rfl

/-- What comes after the last line end is a line unless it is empty. -/
theorem splitLines_last {line : List Char} (unbroken : '\n' ∉ line) :
    splitLines [] (Utf8.encode line) = if line = [] then [] else [Utf8.encode line] := by
  have whole := splitLines_append (Utf8.lineEnd_notMem_encode unbroken) [] []
  rw [List.append_nil, List.append_nil] at whole
  rw [whole, splitLines]
  cases line with
  | nil => rfl
  | cons char line =>
    have octets : (Utf8.encode (char :: line)).reverse.isEmpty = false := by
      rw [List.isEmpty_reverse, Utf8.encode, List.flatMap_cons]
      exact List.isEmpty_eq_false_iff.mpr (by simp [Utf8.encodeChar_ne_nil])
    rw [octets, List.reverse_reverse]
    rfl

/-! ## Reading a text -/

section

variable (setting : Setting) (session : Session) (number : Nat)

/-- An empty line at the end asks for nothing. -/
theorem runLines_blank_last (lines : List (Option (List Char))) :
    runLines setting session number (lines ++ [some []]) =
      runLines setting session number lines := by
  induction lines generalizing session number with
  | nil => rfl
  | cons line lines ih =>
    cases line with
    | none => rfl
    | some line => simp only [List.cons_append, runLines, ih]

end

theorem map_decode_encode (lines : List (List Char)) :
    (lines.map Utf8.encode).map Utf8.decode? = lines.map some := by
  rw [List.map_map]
  exact List.map_congr_left fun line _ => Utf8.decode_encode line

/-- A written text is carried out line by line. -/
theorem run_encode (setting : Setting) (settings : Settings) (text : List Char) :
    run setting settings (Utf8.encode text) =
      runLines setting (Session.initial settings) 1 ((linesOf text).map some) := by
  obtain ⟨closed, last, lines_eq, text_eq, last_unbroken, closed_unbroken⟩ := exists_linesOf text
  rw [run, lines_eq, text_eq, Utf8.encode_append, splitLines_closed closed_unbroken,
    splitLines_last last_unbroken, List.map_append, map_decode_encode, List.map_append]
  split
  · rename_i empty
    rw [empty, List.map_nil, List.append_nil, List.map_singleton, runLines_blank_last]
  · rw [List.map_singleton, Utf8.decode_encode, List.map_singleton]

/-- Lines that are closed are carried out before what comes after them, whatever that is. -/
theorem run_closed (setting : Setting) (settings : Settings) {lines : List (List Char)}
    (unbroken : ∀ line ∈ lines, '\n' ∉ line) (later : List UInt8) :
    run setting settings (Utf8.encode (lines.flatMap (· ++ ['\n'])) ++ later) =
      runLines setting (Session.initial settings) 1
        (lines.map some ++ (splitLines [] later).map Utf8.decode?) := by
  rw [run, splitLines_closed unbroken, List.map_append, map_decode_encode]

/-- No line holds a line end. -/
theorem newline_notMem_linesOf {text line : List Char} (member : line ∈ linesOf text) :
    '\n' ∉ line := by
  obtain ⟨closed, last, lines_eq, -, last_unbroken, closed_unbroken⟩ := exists_linesOf text
  rw [lines_eq, List.mem_append, List.mem_singleton] at member
  rcases member with inside | rfl
  · exact closed_unbroken line inside
  · exact last_unbroken

end Panes.Replay
