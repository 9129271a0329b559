import Panes.Identifier

/-!
# Panes

A pane is one of the mutually exclusive content views. The same value names what to display and
what the host reports as visible. `Pane.Kind` forgets the parameters: it decides colours, the drawer
highlight and whether entries can be selected.
-/

namespace Panes

/-- The kind of a pane, without its parameters. -/
inductive Pane.Kind
  /-- List of all books. -/
  | books
  /-- Outline of one book. -/
  | book
  /-- Editor of a single note. -/
  | note
  /-- Notes that match a search. -/
  | query
  /-- List of saved search filters. -/
  | filters
  /-- Application settings. -/
  | settings
  deriving DecidableEq, Repr

namespace Pane.Kind

/-- A list pane has entries that can be selected, so it owns a selection. -/
def isList : Pane.Kind → Bool
  | books | book | query | filters => true
  | note | settings => false

/-- Only the note editor can hold unsaved edits and so veto a back press. -/
def canHoldEdits : Pane.Kind → Bool
  | note => true
  | _ => false

end Pane.Kind

/-- A pane that can be displayed, with the parameters that identify it. -/
inductive Pane
  /-- The list of all books. -/
  | books
  /-- The outline of a book, scrolled to a note when one is given. -/
  | book (bookId : BookId) (noteId : Option NoteId)
  /-- The editor of one note. -/
  | note (bookId : BookId) (noteId : NoteId)
  /-- The notes that match a search expression. -/
  | query (query : String)
  /-- The list of saved filters. -/
  | filters
  /-- The settings. -/
  | settings
  deriving DecidableEq, Repr

namespace Pane

/-- The kind of a pane. -/
def kind : Pane → Kind
  | books => .books
  | book _ _ => .book
  | note _ _ => .note
  | query _ => .query
  | filters => .filters
  | settings => .settings

/-- The book that a book pane or a note pane belongs to. -/
def bookId? : Pane → Option BookId
  | book bookId _ => some bookId
  | note bookId _ => some bookId
  | _ => none

/-- The pane without its scroll target, which is what tells panes apart. -/
def identity : Pane → Pane
  | book bookId _ => book bookId none
  | pane => pane

/-- Two values denote the same pane. A book scrolled to another note is still the same pane, so
its selection survives the scroll. -/
def sameIdentity (left right : Pane) : Bool :=
  left.identity == right.identity

@[simp]
theorem kind_identity (pane : Pane) : pane.identity.kind = pane.kind := by
  cases pane <;> rfl

@[simp]
theorem bookId?_identity (pane : Pane) : pane.identity.bookId? = pane.bookId? := by
  cases pane <;> rfl

theorem sameIdentity_iff {left right : Pane} :
    left.sameIdentity right = true ↔ left.identity = right.identity := by
  simp [sameIdentity]

end Pane

end Panes
