import Panes.DataDirectory
import Panes.Replay
import Panes.Replay.Arguments
import Panes.Settings.Document

/-!
# The replay program

The program reads the settings, sets up tracing if they ask for it, and replays a script. Everything
it takes from outside is in its `World`, and all it does is in its `Report`.
-/

namespace Panes.Program

/-- What the program finds around it. -/
structure World where
  /-- The octets of a file, if it can be read. -/
  file : String → Option (List UInt8)
  /-- The octets of standard input. -/
  input : List UInt8
  /-- The home directory, if it is known. -/
  home : Option String
  /-- A directory exists or can be created. -/
  hasDirectory : String → Bool
  /-- Unix time in milliseconds, by the number of the line that is carried out. -/
  now : Nat → Int64
  /-- The place in a trace that the commands of a line come from, by the number of the line and the
  number of the span in it. -/
  context : Nat → Nat → Shelf.TraceContext
  /-- What is said about a line of a script that is no step. -/
  complaint : String → String

/-- The spans that a run leaves behind. -/
structure Spans where
  /-- The directory of the trace file. -/
  directory : String
  /-- The spans with the numbers of their lines, in the order in which they ended. -/
  spans : List (Nat × Trace.Finished)
  deriving DecidableEq, Repr

/-- What the program did. -/
structure Report where
  /-- The exit status: zero, one for a failure, and two for arguments that make no sense. -/
  status : Nat
  /-- The lines on standard output. -/
  output : List String
  /-- The lines on standard error. -/
  messages : List String
  /-- The spans, if there are any. -/
  trace : Option Spans
  deriving DecidableEq, Repr

/-- The program's name in messages. -/
def name : String := "panenav"

/-- A message of the program. -/
def message (text : String) : String := name ++ ": " ++ text

/-- How the program is called. -/
def usage : String := "Usage: " ++ name ++ " [--config FILE] [SCRIPT]"

/-- The error that a settings file leads to. -/
def errorOf : Settings.Document.LoadError → Error
  | .unreadable => .io
  | .malformed _ _ => .settingsSyntax
  | .blankTitle => .configuration "default_title must not be empty"

/-- The lines that say why a settings file makes no settings. -/
def complaint (error : Settings.Document.LoadError) : List String :=
  match error with
  | .malformed source fault =>
    match fault.report source with
    | place :: lines => message ((errorOf error).message ++ ": " ++ place) :: lines
    | [] => [message (errorOf error).message]
  | _ => [message (errorOf error).message]

/-- How tracing is set up. -/
structure Tracing where
  /-- What is traced, if anything is. -/
  filter : Option Trace.Filter
  /-- The directory of the trace file. -/
  directory : String
  /-- Messages. -/
  messages : List String

/-- Set up tracing as the settings ask for. -/
def tracing (world : World) (settings : Settings) : Tracing :=
  let directory := DataDirectory.resolve world.home settings.dataDir
  match settings.traceLevel with
  | none => ⟨none, directory, []⟩
  | some level =>
    if world.hasDirectory directory then
      ⟨some (.ofText level), directory, (Trace.Filter.rejects level).map fun (part, fault) =>
        "ignoring `" ++ part ++ "`: " ++ fault.message⟩
    else
      ⟨none, directory, [message "tracing disabled"]⟩

/-- Replay a script with settings. -/
def replay (world : World) (settings : Settings) (script : Option (List UInt8)) : Report :=
  let tracing := tracing world settings
  match script with
  | none => ⟨1, [], tracing.messages ++ [message Error.io.message], none⟩
  | some script =>
    let setting : Replay.Setting := ⟨world.now, tracing.filter, world.context, world.complaint⟩
    let record := Replay.run setting settings script
    let messages := (record.error.map fun error => message error.message).toList
    ⟨if record.error.isSome then 1 else 0, record.output, tracing.messages ++ messages,
      if record.spans.isEmpty then none else some ⟨tracing.directory, record.spans⟩⟩

/-- Run the program with the words of its command line. -/
def run (world : World) (words : List String) : Report :=
  match Replay.Arguments.ofWords? words with
  | none => ⟨2, [], [usage], none⟩
  | some arguments =>
    let settings :=
      match arguments.settingsFile with
      | some file => Settings.Document.loadFile (world.file file)
      | none => .ok .standard
    match settings with
    | .error error => ⟨1, [], complaint error, none⟩
    | .ok settings =>
      let script :=
        match arguments.script with
        | some file => world.file file
        | none => some world.input
      replay world settings script

end Panes.Program
