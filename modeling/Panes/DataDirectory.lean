/-!
# The data directory

Trace files are kept in a directory that the settings may name. A tilde at its start stands for the
home directory.
-/

namespace Panes.DataDirectory

/-- The directory when none is set. -/
def standard : String := "~/.local/share/panenav"

/-- The home directory without the slashes it ends with. -/
def trimSlashes (home : List Char) : List Char := (home.reverse.dropWhile (· == '/')).reverse

/-- A path with the home directory put for a leading tilde. -/
def expandChars (home : List Char) : List Char → List Char
  | ['~'] => trimSlashes home
  | '~' :: '/' :: rest => trimSlashes home ++ '/' :: rest
  | path => path

/-- A path with the home directory put for a leading tilde. Without a home directory the path stays
as it is. -/
def expandTilde (home : Option String) (path : String) : String :=
  match home with
  | some home => String.ofList (expandChars home.toList path.toList)
  | none => path

/-- The directory for a setting. -/
def resolve (home setting : Option String) : String := expandTilde home (setting.getD standard)

/-- The name of the trace file in the directory. -/
def traceFileName : String := "panenav-spans.jsonl"

/-- The path of a file in a directory. -/
def join (directory file : String) : String :=
  if directory.isEmpty ∨ directory.toList.getLast? = some '/' then directory ++ file
  else directory ++ "/" ++ file

end Panes.DataDirectory
