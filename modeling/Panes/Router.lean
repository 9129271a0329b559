import Panes.Pane
import Panes.Search.Token

/-!
# The visible pane

The router remembers the pane that announced itself last. Two questions depend on it: whether an
announcement is news, and what the search box starts with.
-/

namespace Panes

/-- The pane that announced itself last. -/
structure Router where
  /-- That pane, unless it was removed. -/
  current : Option Pane
  deriving DecidableEq, Repr

namespace Router

/-- No pane has announced itself. -/
def initial : Router := ⟨none⟩

/-- The announcement of a pane is news: it is another pane than the current one. -/
def isNews (router : Router) (pane : Pane) : Bool :=
  match router.current with
  | some current => !current.sameIdentity pane
  | none => true

/-- Remember a pane that announces itself. -/
def announce (_router : Router) (pane : Pane) : Router := ⟨some pane⟩

/-- Forget the pane. -/
def reset (_router : Router) : Router := initial

/-- The pane that a search starts from: the one that the host reports, or else the current one. -/
def searchedPane? (router : Router) (visible : Option Pane) : Option Pane :=
  visible.or router.current

/-- The book whose name is needed to fill the search box. -/
def searchedBook? (router : Router) (visible : Option Pane) : Option BookId :=
  match router.searchedPane? visible with
  | some (.book bookId _) => some bookId
  | _ => none

/-- What the search box starts with. A search goes on from its own expression, a book pane limits
the search to its book if the name is known, and all others start empty. A space follows, so that
the user can type on. -/
def searchPrefill (router : Router) (visible : Option Pane)
    (bookName : BookId → Option String) : String :=
  let text? :=
    match router.searchedPane? visible with
    | some (.query query) => some query
    | some (.book bookId _) => (bookName bookId).map Search.bookScope
    | _ => none
  match text? with
  | some text => text ++ " "
  | none => ""

end Router

/-- What a press of the back button does. -/
inductive BackPress
  /-- The drawer was open and closes; nothing else happens. -/
  | drawerClosed
  /-- The visible pane has unsaved edits and deals with the press itself. -/
  | deferredToPane
  /-- The host goes back as it does by default. -/
  | propagate
  deriving DecidableEq, Repr

namespace BackPress

/-- The visible pane is asked about unsaved edits only while the drawer is closed. -/
def consultsPane (drawerOpen : Bool) : Bool := !drawerOpen

/-- What a press does, given whether the drawer is open and the pane has unsaved edits. -/
def decide (drawerOpen needsConfirmation : Bool) : BackPress :=
  if !consultsPane drawerOpen then .drawerClosed
  else if needsConfirmation then .deferredToPane
  else .propagate

end BackPress

end Panes
