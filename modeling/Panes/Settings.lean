import Panes.Text.Blank

/-!
# Settings

What a user can set. Settings come from a map of texts that the host keeps, which is read
leniently, or from a file, which is read strictly.
-/

namespace Panes

/-- The settings. -/
structure Settings where
  /-- The title while no pane has announced one, and while the drawer is open. -/
  defaultTitle : String
  /-- A click selects and a long press opens, instead of the other way round. -/
  reverseNoteClick : Bool
  /-- The directory of the trace file. -/
  dataDir : Option String
  /-- Which spans are traced. -/
  traceLevel : Option String
  deriving DecidableEq, Repr

namespace Settings

/-- The title when none is set. -/
def standardTitle : String := "Notes"

/-- Nothing is set. -/
def standard : Settings := ⟨standardTitle, false, none, none⟩

/-- The truth value that a text spells, in lower case only. -/
def truth? (text : String) : Option Bool :=
  if text = "true" then some true else if text = "false" then some false else none

/-- The settings in a map of texts. Unknown keys, blank titles and misspelt truth values count as
not set. -/
def ofMap (map : List (String × String)) : Settings where
  defaultTitle :=
    match (map.lookup "default_title").map Text.trimString with
    | some title => if title.isEmpty then standardTitle else title
    | none => standardTitle
  reverseNoteClick :=
    (((map.lookup "reverse_note_click").map Text.trimString).bind truth?).getD false
  dataDir := map.lookup "data_dir"
  traceLevel := map.lookup "trace_level"

end Settings

end Panes
