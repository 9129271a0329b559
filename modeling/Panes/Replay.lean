import Panes.Error
import Panes.Json.Printer
import Panes.Replay.Step
import Panes.Trace.Activity

/-!
# Replaying scripts

A script is carried out line by line on a session with an in-memory host. Whatever the host logs is
printed, one action per line. The first line that cannot be read ends the replay: an error names its
number and says why, and what was printed before it stays.
-/

namespace Panes.Replay

/-- What a replay takes from the world around it. -/
structure Setting where
  /-- Unix time in milliseconds, by the number of the line that is carried out. -/
  now : Nat → Int64
  /-- What is traced, if anything is. -/
  filter : Option Trace.Filter
  /-- The place in a trace that the commands of a line come from, by the number of the line and the
  number of the span in it. -/
  context : Nat → Nat → Shelf.TraceContext
  /-- What is said about a text that is no step. -/
  complaint : String → String

/-- What a replay comes to. -/
structure Record where
  /-- The lines printed. -/
  output : List String
  /-- The traced spans with the numbers of their lines, in the order in which they ended. -/
  spans : List (Nat × Trace.Finished)
  /-- Why the replay ended early, if it did. -/
  error : Option Error
  deriving DecidableEq, Repr

namespace Record

/-- Nothing happened. -/
def empty : Record := ⟨[], [], none⟩

/-- The replay ended here with an error. -/
def failed (error : Error) : Record := ⟨[], [], some error⟩

/-- More was printed and traced first. -/
def after (record : Record) (output : List String) (spans : List (Nat × Trace.Finished)) : Record :=
  { record with output := output ++ record.output, spans := spans ++ record.spans }

end Record

/-- What a filter leaves open while the coordinator handles the event of a line. -/
def scopeOfEvent (filter : Trace.Filter) (line : Nat) : Trace.Scope :=
  [.replayStep line, .dispatch 0, .handle []].foldl
    (fun scope opening =>
      if filter.traces scope opening then filter.enter scope opening scope.spans.length else scope)
    .empty

namespace Setting

/-- The surroundings of the session while a line is carried out. -/
def surroundings (setting : Setting) (line : Nat) : Surroundings where
  now := setting.now line
  traceContext := do
    let filter ← setting.filter
    let (_, number) ← (scopeOfEvent filter line).spans.head?
    return setting.context line number

/-- The traced spans of a line, within which the given activities go on. -/
def traced (setting : Setting) (line : Nat) (inner : Unit → List Trace.Activity) :
    List (Nat × Trace.Finished) :=
  match setting.filter with
  | some filter =>
    ((Trace.Activity.span (.replayStep line) (inner ())).finished filter .empty 0).1.map
      fun span => (line, span)
  | none => []

/-- The error of a line that is no step. -/
def malformed (setting : Setting) (line : Nat) (text : String) : Error :=
  .configuration ("line " ++ line.repr ++ ": " ++ setting.complaint text)

end Setting

/-- How a step is carried out, as spans. -/
def activity (surroundings : Surroundings) (session : Session) : Step → List Trace.Activity
  | .advance milliseconds => Trace.advancing session (milliseconds * Scheduler.millisecond)
  | .event event => Trace.dispatching surroundings session event
  | _ => []

/-- Carry out the lines of a script, of which the first has the given number. A line that is no text
is `none`. -/
def runLines (setting : Setting) (session : Session) (number : Nat) :
    List (Option (List Char)) → Record
  | [] => .empty
  | none :: _ => .failed .io
  | some line :: lines =>
    let line := Text.trim line
    if isComment line then
      runLines setting session (number + 1) lines
    else
      let text := String.ofList line
      match Step.ofText? text with
      | none =>
        (Record.failed (setting.malformed number text)).after []
          (setting.traced number fun _ => [])
      | some step =>
        let surroundings := setting.surroundings number
        let spans := setting.traced number fun _ => activity surroundings session step
        let session := step.run surroundings session
        let (host, log) := session.host.takeLog
        (runLines setting { session with host } (number + 1) lines).after
          (log.map fun action => action.toJson.render) spans

/-- The octet that ends a line. -/
def lineEnd : UInt8 := 0x0a

/-- Cut octets into the lines that line ends close. The line that is being read comes last octet
first. -/
def splitLines (line : List UInt8) : List UInt8 → List (List UInt8)
  | [] => if line.isEmpty then [] else [line.reverse]
  | octet :: octets =>
    if octet = lineEnd then line.reverse :: splitLines [] octets
    else splitLines (octet :: line) octets

/-- Carry out a script. -/
def run (setting : Setting) (settings : Settings) (script : List UInt8) : Record :=
  runLines setting (Session.initial settings) 1
    ((splitLines [] script).map Text.Utf8.decode?)

end Panes.Replay
