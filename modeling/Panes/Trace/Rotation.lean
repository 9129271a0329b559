import Panes.Volume

/-!
# Rotating files

A trace file grows line by line. Before a line would take it past its limit, the file becomes backup
1, every backup moves up by one, and the oldest is removed. A line that is longer than the limit
still gets a file of its own.
-/

namespace Panes.Trace

/-- How much is kept. -/
structure Policy where
  /-- How many octets a file may have. -/
  maxBytes : Nat
  /-- How many backups there may be. -/
  maxBackups : Nat
  deriving DecidableEq, Repr

/-- Files of five mebibytes, and three backups. -/
def Policy.standard : Policy := ⟨5 * 1024 * 1024, 3⟩

/-- An open file. -/
structure Handle where
  /-- The serial number of the file. -/
  serial : Nat
  /-- How many octets the file has, as far as the writer knows. -/
  size : Nat
  deriving DecidableEq, Repr

/-- A writer of lines. -/
structure Writer where
  /-- The file that lines go to. -/
  path : Path
  /-- How much is kept. -/
  policy : Policy
  /-- The file, when it is open. -/
  handle : Option Handle
  deriving DecidableEq, Repr

/-- What an attempt to write comes to. -/
structure Attempt where
  /-- The volume afterwards. -/
  volume : Volume
  /-- The writer afterwards. -/
  writer : Writer
  /-- The line was written. -/
  written : Bool
  deriving DecidableEq, Repr

namespace Writer

/-- A writer that has not opened its file. -/
def closed (path : Path) (policy : Policy) : Writer := ⟨path, policy, none⟩

/-- The path of a backup. -/
def backup (writer : Writer) (index : Nat) : Path :=
  writer.path.appendToName ("." ++ index.repr)

/-- Move the backups up by one, from the one with this number down to the first. The flag tells
whether all went well; the first failure ends the moving. -/
def shiftBackups (writer : Writer) : Nat → Volume → Volume × Bool
  | 0, volume => (volume, true)
  | index + 1, volume =>
    if volume.contains (writer.backup (index + 1)) then
      match volume.rename (writer.backup (index + 1)) (writer.backup (index + 2)) with
      | some volume => writer.shiftBackups index volume
      | none => (volume, false)
    else
      writer.shiftBackups index volume

/-- Remove the oldest backup, if there is one. -/
def dropOldest (writer : Writer) (volume : Volume) : Volume × Bool :=
  let oldest := writer.backup writer.policy.maxBackups
  if volume.contains oldest then
    match volume.removeFile oldest with
    | some volume => (volume, true)
    | none => (volume, false)
  else
    (volume, true)

/-- Make the file a backup, or remove it when there are no backups. -/
def rotate (writer : Writer) (volume : Volume) : Volume × Bool :=
  if writer.policy.maxBackups = 0 then
    match volume.removeFile writer.path with
    | some volume => (volume, true)
    | none => (volume, false)
  else
    match writer.dropOldest volume with
    | (volume, false) => (volume, false)
    | (volume, true) =>
      match writer.shiftBackups (writer.policy.maxBackups - 1) volume with
      | (volume, false) => (volume, false)
      | (volume, true) =>
        match volume.rename writer.path (writer.backup 1) with
        | some volume => (volume, true)
        | none => (volume, false)

/-- The writer with its file open, if it can be opened. -/
def opened (writer : Writer) (volume : Volume) : Option (Volume × Handle) :=
  match writer.handle with
  | some handle => some (volume, handle)
  | none =>
    (volume.openToAppend writer.path).map fun (volume, serial, content) =>
      (volume, ⟨serial, content.utf8ByteSize⟩)

/-- A line of so many octets takes the file past its limit. An empty file is never too full. -/
def overflows (writer : Writer) (handle : Handle) (incoming : Nat) : Bool :=
  0 < handle.size && writer.policy.maxBytes < handle.size + incoming

/-- Write a line to an open file. -/
def put (writer : Writer) (volume : Volume) (handle : Handle) (line : String) : Attempt :=
  let line := line ++ "\n"
  ⟨volume.append writer.path handle.serial line,
    { writer with handle := some { handle with size := handle.size + line.utf8ByteSize } }, true⟩

/-- Write a line, and rotate first if it would not fit. -/
def writeLine (writer : Writer) (volume : Volume) (line : String) : Attempt :=
  match writer.opened volume with
  | none => ⟨volume, writer, false⟩
  | some (volume, handle) =>
    if writer.overflows handle (line.utf8ByteSize + 1) then
      let writer := { writer with handle := none }
      match writer.rotate volume with
      | (volume, false) => ⟨volume, writer, false⟩
      | (volume, true) =>
        match volume.openToAppend writer.path with
        | some (volume, serial, _) => writer.put volume ⟨serial, 0⟩ line
        | none => ⟨volume, writer, false⟩
    else
      writer.put volume handle line

/-- The writer and the volume after lines, whether they could be written or not. -/
def writeLines (writer : Writer) (volume : Volume) : List String → Writer × Volume
  | [] => (writer, volume)
  | line :: lines =>
    let attempt := writer.writeLine volume line
    attempt.writer.writeLines attempt.volume lines

end Writer

end Panes.Trace
