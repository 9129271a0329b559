/-!
# Identifiers

The content store numbers its entries with signed 64-bit integers. Outside the coordinator (launch
extras, broadcasts) a number that is not positive stands for "none", and `ofRaw?` is the one place
where that convention is read.
-/

namespace Panes

/-- A selectable entry of a list pane. -/
structure ItemId where
  /-- The number the content store gave. -/
  raw : Int64
  deriving DecidableEq, Repr

/-- A note of an outline. -/
structure NoteId where
  /-- The number the content store gave. -/
  raw : Int64
  deriving DecidableEq, Repr

/-- A book, that is, one outline document. -/
structure BookId where
  /-- The number the content store gave. -/
  raw : Int64
  deriving DecidableEq, Repr

/-- A saved search filter. -/
structure FilterId where
  /-- The number the content store gave. -/
  raw : Int64
  deriving DecidableEq, Repr

/-- The item with this number, when the number stands for one. -/
def ItemId.ofRaw? (raw : Int64) : Option ItemId :=
  if 0 < raw then some ⟨raw⟩ else none

/-- The note with this number, when the number stands for one. -/
def NoteId.ofRaw? (raw : Int64) : Option NoteId :=
  if 0 < raw then some ⟨raw⟩ else none

/-- The book with this number, when the number stands for one. -/
def BookId.ofRaw? (raw : Int64) : Option BookId :=
  if 0 < raw then some ⟨raw⟩ else none

/-- The filter with this number, when the number stands for one. -/
def FilterId.ofRaw? (raw : Int64) : Option FilterId :=
  if 0 < raw then some ⟨raw⟩ else none

/-- Identifiers are shown as their plain decimal number. -/
def ItemId.text (id : ItemId) : String := id.raw.toInt.repr

/-- Identifiers are shown as their plain decimal number. -/
def NoteId.text (id : NoteId) : String := id.raw.toInt.repr

/-- Identifiers are shown as their plain decimal number. -/
def BookId.text (id : BookId) : String := id.raw.toInt.repr

/-- Identifiers are shown as their plain decimal number. -/
def FilterId.text (id : FilterId) : String := id.raw.toInt.repr

/-- The list entry that stands for a note: in every list pane the entries are notes. -/
def NoteId.item (id : NoteId) : ItemId := ⟨id.raw⟩

/-- Where a note lives, as the content store reports it. -/
structure NoteRef where
  /-- The note itself. -/
  id : NoteId
  /-- The book the note lives in. -/
  bookId : BookId
  deriving DecidableEq, Repr

theorem BookId.ofRaw?_eq_some_iff {raw : Int64} {id : BookId} :
    BookId.ofRaw? raw = some id ↔ 0 < raw ∧ id.raw = raw := by
  cases id
  by_cases positive : 0 < raw <;> simp only [BookId.ofRaw?, positive] <;> simp [eq_comm]

theorem NoteId.ofRaw?_eq_some_iff {raw : Int64} {id : NoteId} :
    NoteId.ofRaw? raw = some id ↔ 0 < raw ∧ id.raw = raw := by
  cases id
  by_cases positive : 0 < raw <;> simp only [NoteId.ofRaw?, positive] <;> simp [eq_comm]

end Panes
