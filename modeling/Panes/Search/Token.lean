import Panes.Text.Blank

/-!
# Search tokens

A search is a row of tokens. A token with blanks, quotes or backslashes in it, or without any
character, is written between double quotes. The coordinator writes such tokens and never has to
read a search.
-/

namespace Panes.Search

/-- Characters that make quotes necessary, blanks apart. -/
def special : List Char := ['"', '\'', '\\']

/-- The token has to be quoted. -/
def needsQuotes (token : List Char) : Bool :=
  token.isEmpty || token.any fun char => Text.isBlank char || special.contains char

/-- A character as it is written between quotes. -/
def escape : Char → List Char
  | '"' => ['\\', '"']
  | '\\' => ['\\', '\\']
  | '\n' => ['\\', 'n']
  | '\r' => ['\\', 'r']
  | '\t' => ['\\', 't']
  | char => [char]

/-- A token as it is written in a search. -/
def quoteChars (token : List Char) : List Char :=
  if needsQuotes token then '"' :: (token.flatMap escape ++ ['"']) else token

/-- A token as it is written in a search. -/
def quote (token : String) : String := String.ofList (quoteChars token.toList)

/-- The search for everything in the book with this name. -/
def bookScope (name : String) : String := "b." ++ quote name

end Panes.Search
