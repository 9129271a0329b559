/-!
# Volumes

A volume is a tree of directories and text files, kept as a flat list of paths. Each file has a
serial number, so a handle that was opened before a file was removed can be told from the file that
has the same path later.
-/

namespace Panes

/-- The names on the way from the root to an entry. -/
abbrev Path := List String

namespace Path

/-- The path that a text with slashes denotes. -/
def ofText (text : String) : Path :=
  (text.splitOn "/").filter fun name => name != "" && name != "."

/-- The text of a path. -/
def text (path : Path) : String := "/".intercalate path

/-- The path with its steps up carried out. At the root there is no way up. -/
def resolve (path : Path) : Path :=
  path.foldl (fun path name => if name = ".." then path.dropLast else path ++ [name]) []

/-- The directory that an entry lies in. -/
def parent (path : Path) : Path := path.dropLast

/-- The path with a text put behind its last name. -/
def appendToName (path : Path) (suffix : String) : Path :=
  match path.getLast? with
  | some name => path.dropLast ++ [name ++ suffix]
  | none => [suffix]

end Path

/-- An entry of a volume. -/
inductive Volume.Node
  /-- A directory. -/
  | directory
  /-- A file with a serial number and a text. The size of a file is that of its text in UTF-8, so a
  file whose octets are no UTF-8 has no counterpart here. -/
  | file (serial : Nat) (content : String)
  deriving DecidableEq, Repr

/-- A tree of directories and files. -/
structure Volume where
  /-- The entries with their paths. -/
  entries : List (Path × Volume.Node)
  /-- The serial number of the next file. -/
  nextSerial : Nat
  deriving DecidableEq, Repr

namespace Volume

/-- A volume without entries. -/
def empty : Volume := ⟨[], 0⟩

/-- The entry at a path. The root is a directory. -/
def node? (volume : Volume) (path : Path) : Option Node :=
  if path = [] then some .directory else volume.entries.lookup path

/-- There is an entry at the path. -/
def contains (volume : Volume) (path : Path) : Bool := (volume.node? path).isSome

/-- There is a directory at the path. -/
def isDirectory (volume : Volume) (path : Path) : Bool := volume.node? path == some .directory

/-- The text of the file at a path. -/
def content? (volume : Volume) (path : Path) : Option String :=
  match volume.node? path with
  | some (.file _ content) => some content
  | _ => none

/-- The entries without the one at a path. -/
def erase (volume : Volume) (path : Path) : Volume :=
  { volume with entries := volume.entries.filter (·.1 != path) }

/-- The entries with one put at a path. -/
def set (volume : Volume) (path : Path) (node : Node) : Volume :=
  { volume with entries := (path, node) :: (volume.erase path).entries }

/-- A new file with a text, at a path where there is none. -/
def create (volume : Volume) (path : Path) (content : String) : Volume :=
  { volume.set path (.file volume.nextSerial content) with nextSerial := volume.nextSerial + 1 }

/-- Open a file to write at its end, and create it if its directory exists. The result is the serial
number and the text so far. -/
def openToAppend (volume : Volume) (path : Path) : Option (Volume × Nat × String) :=
  match volume.node? path with
  | some (.file serial content) => some (volume, serial, content)
  | some .directory => none
  | none =>
    if volume.isDirectory path.parent then
      some (volume.create path "", volume.nextSerial, "")
    else
      none

/-- Write at the end of the file with this serial number. If the path has another file by now, or
none, the text is lost. -/
def append (volume : Volume) (path : Path) (serial : Nat) (text : String) : Volume :=
  match volume.node? path with
  | some (.file found content) =>
    if found = serial then volume.set path (.file serial (content ++ text)) else volume
  | _ => volume

/-- Replace the text of a file, or create the file. -/
def write (volume : Volume) (path : Path) (text : String) : Option Volume :=
  match volume.node? path with
  | some (.file serial _) => some (volume.set path (.file serial text))
  | some .directory => none
  | none => if volume.isDirectory path.parent then some (volume.create path text) else none

/-- Remove a file. -/
def removeFile (volume : Volume) (path : Path) : Option Volume :=
  match volume.node? path with
  | some (.file _ _) => some (volume.erase path)
  | _ => none

/-- There is an entry below the path. -/
def hasEntriesBelow (volume : Volume) (path : Path) : Bool :=
  volume.entries.any fun entry => path.isPrefixOf entry.1 && entry.1 != path

/-- Move an entry to another path. A file takes the place of a file, and a directory that of an
empty directory. -/
def rename (volume : Volume) (source target : Path) : Option Volume :=
  if ¬ volume.isDirectory target.parent then none else
  match volume.node? source, volume.node? target with
  | none, _ => none
  | some (.file _ _), some .directory => none
  | some (.file serial content), _ =>
    some ((volume.erase source).set target (.file serial content))
  | some .directory, some (.file _ _) => none
  | some .directory, found =>
    if (found.isSome && volume.hasEntriesBelow target) || source.isPrefixOf target then none
    else
      let move (entry : Path × Node) : Path × Node :=
        if source.isPrefixOf entry.1 then (target ++ entry.1.drop source.length, entry.2) else entry
      some { volume with entries := (volume.erase target).entries.map move }

/-- Create the directories on the way to a path that are missing. -/
def makeDirectories (volume : Volume) (path : Path) : Option Volume :=
  ((List.range path.length).map fun count => path.take (count + 1)).foldlM
    (fun volume path =>
      match volume.node? path with
      | some .directory => some volume
      | some (.file _ _) => none
      | none => some (volume.set path .directory))
    volume

/-- The files with their texts. -/
def files (volume : Volume) : List (Path × String) :=
  volume.entries.filterMap fun
    | (path, .file _ content) => some (path, content)
    | (_, .directory) => none

end Volume

end Panes
