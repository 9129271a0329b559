import Mathlib.Data.List.Forall2
import Panes.Proofs.Document
import Panes.Proofs.Text.Blank
import Panes.Session

/-!
# Suggested names

A document is suggested under the stem of its file name, and the file name has no blanks around it.
The stem may end with blanks that stood before the extension, but it starts with the first character
of the file name. So there is always something left of it when the user confirms it as it is.
-/

namespace Panes

namespace Document

open Text

variable {mark char letter : Char} {name stem extension : List Char} {address book file : String}

/-- The extension of outline files, with each letter in either case. -/
def IsOutline (extension : String) : Prop :=
  List.Forall₂ (fun char letter => char = letter ∨ char = letter.toUpper)
    extension.toList outlineExtension

/-! ## Cutting off the extension -/

theorem notMem_afterLast (mark : Char) (text : List Char) : mark ∉ afterLast mark text := by
  intro member
  have other := List.mem_takeWhile_imp (List.mem_reverse.mp member)
  exact bne_iff_ne.mp other rfl

theorem exists_last (member : mark ∈ name) :
    ∃ front back, name = front ++ mark :: back ∧ mark ∉ back := by
  obtain ⟨back, front, split, free⟩ := List.eq_append_cons_of_mem (List.mem_reverse.mpr member)
  refine ⟨front.reverse, back.reverse, ?_, mt List.mem_reverse.mp free⟩
  rw [← List.reverse_reverse name, split]
  simp

/-- The point that separates the extension is the last one. -/
theorem splitExtension?_eq_some_iff :
    splitExtension? name = some (stem, extension) ↔
      name = stem ++ '.' :: extension ∧ '.' ∉ extension := by
  rw [splitExtension?]
  by_cases pointed : '.' ∈ name
  · obtain ⟨front, back, rfl, free⟩ := exists_last pointed
    have length_eq : (front ++ '.' :: back).length - back.length - 1 = front.length := by
      simp only [List.length_append, List.length_cons]
      omega
    simp only [List.contains_iff_mem.mpr pointed, if_true, afterLast_append free, length_eq,
      List.take_left', Option.some.injEq, Prod.mk.injEq]
    constructor
    · rintro ⟨rfl, rfl⟩
      exact ⟨rfl, free⟩
    · rintro ⟨same, free'⟩
      have cut := congrArg (afterLast '.') same
      rw [afterLast_append free, afterLast_append free'] at cut
      subst cut
      exact ⟨List.append_cancel_right same, rfl⟩
  · simp only [List.contains_iff_mem, pointed, if_false]
    refine iff_of_false (by simp) ?_
    rintro ⟨rfl, -⟩
    simp at pointed

theorem toLower_eq_iff (small : letter.isLower = true) :
    char.toLower = letter ↔ char = letter ∨ char = letter.toUpper := by
  -- Both changes of case are additions to the number of a letter, and leave all else.
  delta Char.isLower at small
  delta Char.toLower Char.toUpper
  simp only [Char.ext_iff]
  split <;> split <;> grind [UInt32.toNat_add, Char.toNat_val]

theorem isOutline_of_map_toLower {extension : List Char}
    (same : extension.map Char.toLower = outlineExtension) :
    IsOutline (String.ofList extension) := by
  have small : ∀ letter ∈ outlineExtension, letter.isLower = true := List.all_eq_true.mp rfl
  rw [IsOutline, String.toList_ofList, ← same, List.forall₂_map_right_iff, List.forall₂_same]
  intro char member
  exact (toLower_eq_iff (small _ (same ▸ List.mem_map_of_mem member))).mp rfl

/-! ## Names -/

/-- A file name has no slash and does not start with a blank. -/
theorem fileName?_eq_some (found : fileName? address = some file) :
    '/' ∉ file.toList ∧ ∃ first rest, file.toList = first :: rest ∧ isBlank first = false := by
  rw [fileName?_eq] at found
  split at found
  · cases found
  · next filled =>
    have same : String.ofList (trim (lastSegment address.toList)) = file := Option.some_inj.mp found
    subst same
    rw [String.toList_ofList]
    refine ⟨fun slash => notMem_afterLast '/' _ (trim_subset _ slash), ?_⟩
    cases remains : trim (lastSegment address.toList) with
    | nil => exact absurd remains filled
    | cons first rest => exact ⟨first, rest, rfl, isBlank_of_trim remains⟩

/-- A suggested name is the stem of the file name, and is not empty. -/
theorem bookName?_eq_some (suggested : bookName? address = some book) :
    ∃ extension, fileName? address = some (book ++ "." ++ extension) ∧ IsOutline extension ∧
      book.toList ≠ [] := by
  simp only [bookName?, Option.bind_eq_bind, Option.bind_eq_some_iff] at suggested
  obtain ⟨file, found, ⟨stem, extension⟩, cut, suggested⟩ := suggested
  obtain ⟨split, -⟩ := splitExtension?_eq_some_iff.mp cut
  split at suggested
  · next outline =>
    have same : String.ofList stem = book := Option.some_inj.mp suggested
    subst same
    refine ⟨String.ofList extension, ?_, isOutline_of_map_toLower outline.1, ?_⟩
    · have file_eq : String.ofList stem ++ "." ++ String.ofList extension = file := by
        apply String.toList_inj.mp
        rw [split]
        simp
      rw [found, file_eq]
    · rw [String.toList_ofList]
      exact outline.2
  · cases suggested

end Document

namespace Coordinator

open Text

/-- A name that does not start with a blank is accepted, without the blanks at its end. -/
theorem importConfirmed_of_visible (view : HostView) (state : Coordinator) (uri : String)
    {name : String} {first : Char} {rest : List Char} (name_eq : name.toList = first :: rest)
    (visible : isBlank first = false) :
    ∃ book blanks, name = book ++ blanks ∧ (∀ char ∈ blanks.toList, isBlank char = true) ∧
      (∃ last ∈ book.toList.getLast?, isBlank last = false) ∧
      state.importConfirmed view name uri = state.emit [post view (.importBook book uri)] := by
  obtain ⟨blanks, split, blank, last, ends, shown⟩ := trim_of_visible visible rest
  have book_eq : (trimString name).toList = trim (first :: rest) := by
    rw [trimString, String.toList_ofList, name_eq]
  rw [← book_eq] at split ends
  refine ⟨trimString name, String.ofList blanks, ?_, ?_, ⟨last, ends, shown⟩, ?_⟩
  · apply String.toList_inj.mp
    rw [String.toList_append, String.toList_ofList, name_eq, split]
  · rwa [String.toList_ofList]
  · have filled : ¬ (trimString name).isEmpty = true := by
      intro empty
      rw [String.isEmpty_iff.mp empty] at ends
      cases ends
    rw [importConfirmed]
    simp only [filled, Bool.false_eq_true, if_false]

/-- A suggested name has no slash, does not start with a blank, and is the stem of the file name of
an outline. When the user confirms it as it is, the import is posted, under the name without the
blanks at its end, and nothing else happens. -/
theorem suggestion_confirmable {uri name : String} {now : Int64}
    (suggested : (PendingImport.arriving uri now).suggestedName = some name) (view : HostView)
    (state : Coordinator) :
    '/' ∉ name.toList ∧
      (∃ first rest, name.toList = first :: rest ∧ isBlank first = false) ∧
      (∃ extension, Document.fileName? uri = some (name ++ "." ++ extension) ∧
        Document.IsOutline extension) ∧
      ∃ book blanks, name = book ++ blanks ∧ (∀ char ∈ blanks.toList, isBlank char = true) ∧
        (∃ last ∈ book.toList.getLast?, isBlank last = false) ∧
        state.handle view (.importConfirmed name uri) =
          ⟨state, false, [.postToShelf ⟨.importBook book uri, view.traceContext⟩]⟩ := by
  obtain ⟨extension, found, outline, filled⟩ := Document.bookName?_eq_some suggested
  obtain ⟨unslashed, first, rest, file_eq, visible⟩ := Document.fileName?_eq_some found
  -- The stem is the front of the file name, so both start with the same character.
  obtain ⟨char, stem, name_eq⟩ := List.exists_cons_of_ne_nil filled
  rw [String.toList_append, String.toList_append, name_eq, List.cons_append, List.cons_append]
    at file_eq
  obtain ⟨rfl, -⟩ := List.cons.inj file_eq
  refine ⟨fun slash => unslashed ?_, ⟨char, stem, name_eq, visible⟩, ⟨extension, found, outline⟩,
    importConfirmed_of_visible view state uri name_eq visible⟩
  rw [String.toList_append, String.toList_append]
  exact List.mem_append_left _ (List.mem_append_left _ slash)

/-- The last part of the path holds an escaped slash, and the extension is in upper case and has a
blank before it. -/
theorem suggestion_confirmable_padded :
    let uri := "content://docs/Notes%2FWork%20.ORG?x"
    let view : HostView := Host.initial.view .still
    (PendingImport.arriving uri 0).suggestedName = some "Work " ∧
      '/' ∉ "Work ".toList ∧
      (∃ extension, Document.fileName? uri = some ("Work " ++ "." ++ extension) ∧
        Document.IsOutline extension) ∧
      ((initial .standard).handle view (.importConfirmed "Work " uri)).actions =
        [.postToShelf ⟨.importBook "Work" uri, none⟩] := by
  intro uri view
  have suggested : (PendingImport.arriving uri 0).suggestedName = some "Work " := by decide
  obtain ⟨unslashed, -, named, -⟩ := suggestion_confirmable suggested view (initial .standard)
  exact ⟨suggested, unslashed, named, by decide⟩

end Coordinator

end Panes
