import Panes.Program
import Panes.Trace.Rotation
import Panes.Trace.Span

/-!
# The command line

Reads what the program needs, runs it, and writes what it reports.
-/

namespace Panes.Console

/-- The octets of a file, if it can be read. -/
def readOctets? (file : String) : IO (Option (List UInt8)) := do
  try
    let octets ← IO.FS.readBinFile file
    return some octets.toList
  catch _ =>
    return none

/-- The directory exists or could be created. -/
def ensureDirectory (directory : String) : IO Bool := do
  try
    IO.FS.createDirAll directory
    return true
  catch _ =>
    return false

/-- Unix time in nanoseconds: when a file that is made now was made. -/
def unixTime : IO Int := do
  let (_, path) ← IO.FS.createTempFile
  let time := (← path.metadata).modified
  IO.FS.removeFile path
  return time.sec * 1000000000 + time.nsec.toNat

/-- Numbers for the spans of a run. -/
structure Numbering where
  /-- The trace of a line is this and the number of the line. -/
  traces : Nat
  /-- A span is this, the number of its line and its number in the line. -/
  spans : Nat

/-- The trace of a line. -/
def Numbering.trace (numbering : Numbering) (line : Nat) : Nat :=
  (numbering.traces + line) % 0xffffffffffffffffffffffffffffffff + 1

/-- The number of a span in a line. -/
def Numbering.span (numbering : Numbering) (line number : Nat) : Nat :=
  (numbering.spans + line * 0x100000 + number) % 0xffffffffffffffff + 1

/-- The place in a trace of a span in a line. -/
def Numbering.context (numbering : Numbering) (line number : Nat) : Shelf.TraceContext :=
  ⟨Trace.hexadecimal 32 (numbering.trace line), Trace.hexadecimal 16 (numbering.span line number)⟩

/-- A span as one line of the trace file. -/
def spanLine (numbering : Numbering) (time : Int) (line : Nat) (span : Trace.Finished) : String :=
  (Trace.Span.toJson Program.name {
    traceId := numbering.trace line
    spanId := numbering.span line span.number
    parentSpanId :=
      match span.parent with
      | some (_, number) => numbering.span line number
      | none => 0
    name := span.site.name
    start := time
    finish := time
    status := .unset
    attributes := []
    moments := [] }).render

/-- The trace files in the way they are named inside a volume, the active one first. -/
def traceFiles (writer : Trace.Writer) : List Path :=
  writer.path :: (List.range writer.policy.maxBackups).map fun index => writer.backup (index + 1)

/-- Add lines to a trace file: read it and its backups, write the lines, and put back what there is
then. -/
def writeTrace (directory : String) (lines : List String) : IO Unit := do
  let writer := Trace.Writer.closed [DataDirectory.traceFileName] .standard
  let place (path : Path) : String := DataDirectory.join directory path.text
  let mut volume := Volume.empty
  for path in traceFiles writer do
    match (← readOctets? (place path)).bind Text.Utf8.decode? with
    | some chars => volume := volume.create path (String.ofList chars)
    | none => pure ()
  let before := volume
  let (_, after) := writer.writeLines volume lines
  for path in traceFiles writer do
    match after.content? path with
    | some content =>
      if before.content? path != some content then IO.FS.writeFile (place path) content
    | none => if before.contains path then IO.FS.removeFile (place path)

/-- The settings that the command line leads to, as far as they can be read. -/
def settingsAhead (arguments : Option Replay.Arguments) : IO (Option Settings) := do
  match arguments.bind (·.settingsFile) with
  | some file => return (Settings.Document.loadFile (← readOctets? file)).toOption
  | none => return some .standard

/-- What is said about a line that is no step. -/
def complaint (line : String) : String :=
  match Json.parse? line with
  | some _ => "data did not match any variant of untagged enum Step"
  | none => "invalid JSON"

/-- Run the program and say with which status it ends. -/
def execute (words : List String) : IO UInt32 := do
  let arguments := Replay.Arguments.ofWords? words
  let home ← IO.getEnv "HOME"
  let directory := fun settings : Settings => DataDirectory.resolve home settings.dataDir
  let usable ← match ← settingsAhead arguments with
    | some settings =>
      if settings.traceLevel.isSome then ensureDirectory (directory settings) else pure false
    | none => pure false
  let mut files : List (String × Option (List UInt8)) := []
  let mut input : List UInt8 := []
  match arguments with
  | none => pure ()
  | some arguments =>
    for file in arguments.settingsFile.toList ++ arguments.script.toList do
      files := (file, ← readOctets? file) :: files
    if arguments.script.isNone then
      input := (← (← IO.getStdin).readBinToEnd).toList
  let time ← unixTime
  let numbering : Numbering :=
    ⟨← IO.rand 0 0xffffffffffffffffffffffffffffffff, ← IO.rand 0 0xffffffffffffffff⟩
  let report := Program.run {
    file := fun name => (files.lookup name).join
    input
    home
    hasDirectory := fun _ => usable
    now := fun _ => Int64.ofInt (time / 1000000)
    context := numbering.context
    complaint } words
  let output ← IO.getStdout
  for line in report.output do
    output.putStrLn line
  output.flush
  let errors ← IO.getStderr
  for line in report.messages do
    errors.putStrLn line
  match report.trace with
  | some trace =>
    try
      writeTrace trace.directory (trace.spans.map fun (line, span) =>
        spanLine numbering time line span)
    catch _ => pure ()
  | none => pure ()
  return report.status.toUInt32

end Panes.Console

/-- The replay program. -/
def main (words : List String) : IO UInt32 := Panes.Console.execute words
