import Panes.Json.Tree
import Panes.Session
import Panes.Wire.Event

/-!
# Script lines

A script tells an in-memory host what exists and what happens, one JSON value per line:

* `{"advance_ms": 300}` moves the clock;
* `{"note": {"id": 42, "book_id": 7}}` lets a note exist;
* `{"book": {"id": 7, "name": "Work"}}` lets a book exist;
* `{"needs_confirmation": true}` gives the visible pane unsaved edits;
* any event happens.

The forms are tried in this order, and the first one that fits is taken. Blank lines and lines that
start with `#` are comments.
-/

namespace Panes.Replay

open Wire

/-- What a line of a script asks for. -/
inductive Step
  /-- Move the clock by milliseconds. -/
  | advance (milliseconds : Nat)
  /-- Let a note exist. -/
  | note (ref : NoteRef)
  /-- Let a book exist. -/
  | book (id : BookId) (name : String)
  /-- Set whether the visible pane has unsaved edits. -/
  | confirmation (needed : Bool)
  /-- Let an event happen. -/
  | event (happening : Event)
  deriving DecidableEq, Repr

namespace Step

/-- The value of the only known field of an object. -/
def onlyField? {α : Type} (name : String) (read : Json → Option α) : Json → Option α
  | .object members => (fields? [name] (.object members)).bind (·.required name read)
  | _ => none

/-- A book with its name. -/
def bookSeed? (json : Json) : Option (BookId × String) := do
  let fields ← fields? ["id", "name"] json
  return (← fields.required "id" BookId.ofJson?, ← fields.required "name" string?)

/-- The step that a value denotes. -/
def ofJson? (json : Json) : Option Step :=
  ((onlyField? "advance_ms" unsigned? json).map advance)
    |>.or ((onlyField? "note" NoteRef.ofJson? json).map note)
    |>.or ((onlyField? "book" bookSeed? json).map fun (id, name) => book id name)
    |>.or ((onlyField? "needs_confirmation" bool? json).map confirmation)
    |>.or ((Event.ofJson? .setAside json).map event)

/-- The step that a text denotes. -/
def ofText? (text : String) : Option Step := (Json.parse? text).bind ofJson?

/-- Carry out a step. -/
def run (surroundings : Surroundings) (session : Session) : Step → Session
  | advance milliseconds =>
    (session.advance surroundings (milliseconds * Scheduler.millisecond)).1
  | note ref => { session with host := session.host.addNote ref }
  | book id name => { session with host := session.host.addBook id name }
  | confirmation needed =>
    { session with host := { session.host with needsConfirmation := needed } }
  | event happening => (session.dispatch surroundings happening).1

end Step

/-- The line has nothing to be carried out, once the blanks around it are gone. -/
def isComment (line : List Char) : Bool := line.isEmpty || line.head? == some '#'

end Panes.Replay
