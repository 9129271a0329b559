import Panes.Request

/-!
# Drawer entries

The entries of the navigation drawer, and the request that each one makes.
-/

namespace Panes.Drawer

/-- An entry of the navigation drawer. -/
inductive Item
  /-- The list of books. -/
  | books
  /-- The list of saved filters. -/
  | filters
  /-- The settings. -/
  | settings
  /-- One book. -/
  | book (bookId : BookId)
  /-- A saved filter, which opens its search. -/
  | filter (query : String)
  deriving DecidableEq, Repr

namespace Item

/-- The request that a click on the entry makes. -/
def request : Item → Request
  | books => .openBooksList true
  | filters => .openFilters
  | settings => .openSettings
  | book bookId => .openBook bookId none
  | filter query => .openQuery query

/-- The pane that a click on the entry leads to, with nothing chosen in it. -/
theorem pane_request (item : Item) :
    item.request.pane =
      match item with
      | books => .books
      | filters => .filters
      | settings => .settings
      | book bookId => .book bookId none
      | filter query => .query query := by
  cases item <;> rfl

/-- Going back leads away from the pane again. -/
theorem addsToBackStack_request (item : Item) : item.request.addsToBackStack = true := by
  cases item <;> rfl

/-- A book entry may point at the book that is already shown. -/
def isBook : Item → Bool
  | book _ => true
  | _ => false

end Item

end Panes.Drawer
