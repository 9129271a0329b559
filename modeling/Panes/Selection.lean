import Panes.Identifier

/-!
# Selections

The selected entries of one list pane, as the increasing list of their identifiers. That list is
also the target of bulk commands.
-/

namespace Panes

/-- The selected entries of a list pane. -/
structure Selection where
  /-- The identifiers in increasing order, each once. -/
  ids : List ItemId
  deriving DecidableEq, Repr

namespace Selection

/-- Nothing is selected. -/
def empty : Selection := ⟨[]⟩

/-- How many entries are selected. -/
def count (selection : Selection) : Nat := selection.ids.length

/-- Nothing is selected. -/
def isEmpty (selection : Selection) : Bool := selection.ids.isEmpty

/-- The entry is selected. -/
def contains (selection : Selection) (id : ItemId) : Bool := selection.ids.contains id

/-- Put an identifier before the first one that is greater. -/
def insertOrdered (id : ItemId) : List ItemId → List ItemId
  | [] => [id]
  | head :: tail =>
    if id.raw < head.raw then id :: head :: tail else head :: insertOrdered id tail

/-- Select the entry if it was not selected, and otherwise drop it. -/
def toggle (selection : Selection) (id : ItemId) : Selection :=
  if selection.contains id then
    ⟨selection.ids.erase id⟩
  else
    ⟨insertOrdered id selection.ids⟩

/-- A toggle with its answer, which tells whether the entry is selected now. -/
def turnOver (selection : Selection) (id : ItemId) : Selection × Bool :=
  if selection.contains id then
    (⟨selection.ids.erase id⟩, false)
  else
    (⟨insertOrdered id selection.ids⟩, true)

theorem mem_insertOrdered {id other : ItemId} {ids : List ItemId} :
    other ∈ insertOrdered id ids ↔ other = id ∨ other ∈ ids := by
  induction ids with
  | nil => simp [insertOrdered]
  | cons head tail ih =>
    simp only [insertOrdered]
    split <;> simp_all
    constructor <;> rintro (h | h | h) <;> simp [h]

end Selection

end Panes
