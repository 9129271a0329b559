import Panes.Text.Blank
import Panes.Text.Percent
import Panes.Text.Utf8

/-!
# Imported documents

A document arrives by its address, of which only the last part of the path is looked at. When that
part names an outline file, its stem is the suggested name of the book.
-/

namespace Panes.Document

/-- The part of a text before the first of a character. -/
def before (mark : Char) (text : List Char) : List Char := text.takeWhile (· != mark)

/-- The part of a text after the last of a character, or all of it when there is none. -/
def afterLast (mark : Char) (text : List Char) : List Char :=
  (text.reverse.takeWhile (· != mark)).reverse

/-- The last part of the path of an address, with escapes undone. Some providers write the whole
path into one part, so it is cut again after that. -/
def lastSegment (address : List Char) : List Char :=
  let segment := afterLast '/' (before '?' (before '#' address))
  afterLast '/' (Text.Utf8.decodeLossy (Text.Percent.decode (Text.Utf8.encode segment)))

/-- The file name in an address, unless it is blank. -/
def fileName? (address : String) : Option String :=
  match Text.trim (lastSegment address.toList) with
  | [] => none
  | name => some (String.ofList name)

/-- The extension of outline files. -/
def outlineExtension : List Char := ['o', 'r', 'g']

/-- A file name as stem and extension, cut at its last point. -/
def splitExtension? (name : List Char) : Option (List Char × List Char) :=
  let extension := afterLast '.' name
  if name.contains '.' then
    some (name.take (name.length - extension.length - 1), extension)
  else
    none

/-- The name under which a document could be imported. It is the stem of an outline file, with the
extension in any letter case. -/
def bookName? (address : String) : Option String := do
  let name ← fileName? address
  let (stem, extension) ← splitExtension? name.toList
  if extension.map Char.toLower = outlineExtension ∧ stem ≠ [] then
    some (String.ofList stem)
  else
    none

end Panes.Document
