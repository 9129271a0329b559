import Panes.Json.Token
import Panes.Settings
import Panes.Text.Utf8

/-!
# Settings files

A settings file is a TOML document. Settings are texts and truth values, so a document that can be
accepted consists of blank lines, comments and lines `key = value`, and only this part of TOML is
read; tables, lists, numbers and dates make no settings. Everything else is a fault, with its place
in the document.
-/

namespace Panes.Settings.Document

/-- What is wrong with a document, and where. -/
structure Fault where
  /-- How many characters there are from the fault to the end of the document. -/
  left : Nat
  /-- How many characters the fault takes. -/
  length : Nat
  /-- What is wrong. -/
  reason : String
  deriving DecidableEq, Repr

/-- The value of a key. -/
inductive Value
  /-- A text. -/
  | text (value : String)
  /-- A truth value. -/
  | truth (value : Bool)
  /-- A value of another type, as it is written. -/
  | other (source : String)
  deriving DecidableEq, Repr

/-- A line with a key and a value. -/
structure Entry where
  /-- The key. -/
  key : String
  /-- The place of the key, should it be at fault. -/
  keyLeft : Nat
  /-- How many characters the key takes. -/
  keyLength : Nat
  /-- The value. -/
  value : Value
  /-- The place of the value, should it be at fault. -/
  valueLeft : Nat
  /-- How many characters the value takes. -/
  valueLength : Nat
  deriving DecidableEq, Repr

/-- A blank inside a line. -/
def isInlineBlank (char : Char) : Bool := char == ' ' || char == '\t'

/-- The text without the blanks at its start. -/
def skipBlanks (text : List Char) : List Char := text.dropWhile isInlineBlank

/-- A character that may stand in comments and texts: no control character but the tab. -/
def isPlain (char : Char) : Bool :=
  char == '\t' || (0x20 ≤ char.toNat && char.toNat != 0x7f)

/-- A character of a key without quotes. -/
def isBareKey (char : Char) : Bool := char.isAlphanum || char == '-' || char == '_'

/-- What follows the end of a line, if the text is at one. -/
def afterNewline? : List Char → Option (List Char)
  | '\n' :: rest => some rest
  | '\r' :: '\n' :: rest => some rest
  | _ => none

/-- What follows the line, if the text has nothing more than blanks and a comment in it. -/
def afterLine? (text : List Char) : Option (List Char) :=
  let text := skipBlanks text
  let text := if text.head? = some '#' then text.dropWhile isPlain else text
  if text.isEmpty then some [] else afterNewline? text

/-- How a text is written. -/
structure Style where
  /-- The quote around it. -/
  quote : Char
  /-- Backslashes have a meaning. -/
  escapes : Bool
  /-- It may go over several lines, and has three quotes on each side. -/
  lines : Bool
  deriving DecidableEq, Repr

/-- The character with a number, if there is one. -/
def scalar? (number : Nat) : Option Char :=
  if number < 0xd800 ∨ (0xdfff < number ∧ number < 0x110000) then some (Char.ofNat number) else none

/-- The character that hexadecimal digits denote. -/
def hexScalar? (digits : List Char) (count : Nat) : Option Char :=
  if digits.length = count then
    (digits.mapM Json.hexValue?).bind fun values =>
      scalar? (values.foldl (fun number digit => number * 16 + digit) 0)
  else
    none

/-- The character that an escape denotes, and what follows the escape. The text starts after the
backslash. -/
def takeEscape? : List Char → Option (Char × List Char)
  | 'b' :: rest => some (Char.ofNat 0x08, rest)
  | 'f' :: rest => some (Char.ofNat 0x0c, rest)
  | 'n' :: rest => some ('\n', rest)
  | 'r' :: rest => some ('\r', rest)
  | 't' :: rest => some ('\t', rest)
  | '"' :: rest => some ('"', rest)
  | '\\' :: rest => some ('\\', rest)
  | 'u' :: rest => (hexScalar? (rest.take 4) 4).map fun char => (char, rest.drop 4)
  | 'U' :: rest => (hexScalar? (rest.take 8) 8).map fun char => (char, rest.drop 8)
  | _ => none

/-- The text without the blanks and line ends at its start. -/
def skipLines : List Char → List Char
  | '\r' :: '\n' :: rest => skipLines rest
  | char :: rest => if isInlineBlank char || char == '\n' then skipLines rest else char :: rest
  | [] => []

/-- The characters of a text up to its closing quotes, and what follows. The fuel is at least the
number of characters. Up to two quotes may stand inside a text over several lines, also right before
the closing ones. -/
def takeText? (style : Style) : Nat → List Char → Option (List Char × List Char)
  | 0, _ => none
  | _ + 1, [] => none
  | fuel + 1, char :: rest =>
    let continue? (taken : List Char) (rest : List Char) : Option (List Char × List Char) :=
      (takeText? style fuel rest).map fun (more, rest) => (taken ++ more, rest)
    if char = style.quote then
      if style.lines then
        let quotes := (char :: rest).takeWhile (· == style.quote)
        let rest := (char :: rest).drop quotes.length
        if quotes.length < 3 then continue? quotes rest
        else if quotes.length ≤ 5 then some (quotes.drop 3, rest)
        else none
      else
        some ([], rest)
    else if char = '\\' ∧ style.escapes then
      match if style.lines then afterNewline? (skipBlanks rest) else none with
      | some rest => continue? [] (skipLines rest)
      | none =>
        match takeEscape? rest with
        | some (char, rest) => continue? [char] rest
        | none => none
    else if isPlain char then
      continue? [char] rest
    else if style.lines then
      match afterNewline? (char :: rest) with
      | some rest => continue? ['\n'] rest
      | none => none
    else
      none

/-- The text that starts here, if one starts here, and what follows. `lines` allows texts over
several lines. -/
def takeQuoted? (lines : Bool) (text : List Char) : Option (String × List Char) :=
  let within (style : Style) (rest : List Char) : Option (String × List Char) :=
    let rest := if style.lines then (afterNewline? rest).getD rest else rest
    (takeText? style (rest.length + 1) rest).map fun (chars, rest) => (String.ofList chars, rest)
  match lines, text with
  | true, '"' :: '"' :: '"' :: rest => within ⟨'"', true, true⟩ rest
  | true, '\'' :: '\'' :: '\'' :: rest => within ⟨'\'', false, true⟩ rest
  | _, '"' :: rest => within ⟨'"', true, false⟩ rest
  | _, '\'' :: rest => within ⟨'\'', false, false⟩ rest
  | _, _ => none

/-- The key that starts here, and what follows. -/
def takeKey? (text : List Char) : Option (String × List Char) :=
  match text.takeWhile isBareKey with
  | [] => takeQuoted? false text
  | key => some (String.ofList key, text.dropWhile isBareKey)

/-- The value that starts here, and what follows. A value of another type is taken as far as its
line goes. -/
def takeValue? (text : List Char) : Option (Value × List Char) :=
  match text with
  | '"' :: _ | '\'' :: _ =>
    (takeQuoted? true text).map fun (value, rest) => (.text value, rest)
  | 't' :: 'r' :: 'u' :: 'e' :: rest => some (.truth true, rest)
  | 'f' :: 'a' :: 'l' :: 's' :: 'e' :: rest => some (.truth false, rest)
  | char :: _ =>
    if char.isDigit ∨ char = '+' ∨ char = '-' ∨ char = '[' ∨ char = '\x7b' then
      let taken := text.takeWhile fun char => isPlain char && char != '#'
      let source := String.ofList (Text.trimEnd taken)
      some (.other source, text.drop taken.length)
    else none
  | [] => none

/-- The entry of the line that starts here, and what follows the line. -/
def takeEntry (text : List Char) : Except Fault (Entry × List Char) :=
  match takeKey? text with
  | none => .error ⟨text.length, 1, "invalid key"⟩
  | some (key, afterKey) =>
    match skipBlanks afterKey with
    | '=' :: rest =>
      let valueText := skipBlanks rest
      match takeValue? valueText with
      | none => .error ⟨valueText.length, 1, "invalid string\nexpected `\"`, `'`"⟩
      | some (value, afterValue) =>
        match afterLine? afterValue with
        | some rest =>
          .ok (⟨key, text.length, text.length - afterKey.length, value, valueText.length,
            valueText.length - afterValue.length⟩, rest)
        | none => .error ⟨(skipBlanks afterValue).length, 1, "expected newline, `#`"⟩
    | '.' :: _ =>
      .ok (⟨key, text.length, text.length - afterKey.length, .other "", text.length, 1⟩,
        [])
    | rest => .error ⟨rest.length, 1, "expected `.`, `=`"⟩

/-- The entries of the lines of a document. The fuel is at least the number of characters and one
more. -/
def entries : Nat → List Char → Except Fault (List Entry)
  | 0, _ => .ok []
  | _ + 1, [] => .ok []
  | fuel + 1, text =>
    match afterLine? text with
    | some rest => entries fuel rest
    | none => do
      let text := skipBlanks text
      if text.head? = some '[' then
        return [⟨String.ofList ((text.drop 1).takeWhile isBareKey), text.length - 1,
          ((text.drop 1).takeWhile isBareKey).length, .other "", text.length, 1⟩]
      let (entry, rest) ← takeEntry text
      let more ← entries fuel rest
      if more.any (·.key == entry.key) then
        .error ⟨text.length, entry.keyLength, "duplicate key `" ++ entry.key ++ "`"⟩
      else
        return entry :: more

/-- The names of the settings. -/
def keys : List String := ["default_title", "reverse_note_click", "data_dir", "trace_level"]

/-- A list of names, each between backticks. -/
def namesText (names : List String) : String :=
  ", ".intercalate (names.map fun name => "`" ++ name ++ "`")

/-- What a value is called when it has the wrong type. -/
def Value.description : Value → String
  | text value => "string \"" ++ value ++ "\""
  | truth true => "boolean `true`"
  | truth false => "boolean `false`"
  | other source => "integer `" ++ source ++ "`"

/-- Take one entry into the settings. -/
def applyEntry (settings : Settings) (entry : Entry) : Except Fault Settings :=
  let wrongType (expected : String) : Except Fault Settings :=
    .error ⟨entry.valueLeft, entry.valueLength,
      "invalid type: " ++ entry.value.description ++ ", expected " ++ expected⟩
  match entry.key, entry.value with
  | "default_title", .text value => .ok { settings with defaultTitle := value }
  | "default_title", _ => wrongType "a string"
  | "reverse_note_click", .truth value => .ok { settings with reverseNoteClick := value }
  | "reverse_note_click", _ => wrongType "a boolean"
  | "data_dir", .text value => .ok { settings with dataDir := some value }
  | "data_dir", _ => wrongType "a string"
  | "trace_level", .text value => .ok { settings with traceLevel := some value }
  | "trace_level", _ => wrongType "a string"
  | key, _ =>
    .error ⟨entry.keyLeft, entry.keyLength,
      "unknown field `" ++ key ++ "`, expected one of " ++ namesText keys⟩

/-- The document without its byte order mark. -/
def withoutMark : List Char → List Char
  | '\uFEFF' :: rest => rest
  | text => text

/-- The settings that a document makes. -/
def read (source : String) : Except Fault Settings := do
  let text := withoutMark source.toList
  (← entries (text.length + 1) text).foldlM applyEntry .standard

namespace Fault

/-- The lines that show a fault in its document: its place, the line it is in, a mark below, and
the reason. -/
def report (fault : Fault) (source : String) : List String :=
  let text := withoutMark source.toList
  let before := text.take (text.length - fault.left)
  let number := before.count '\n' + 1
  let start := (before.reverse.takeWhile (· != '\n')).reverse
  let rest := (text.drop before.length).takeWhile (· != '\n')
  let line := start ++ rest
  let gutter := String.ofList (List.replicate number.repr.length ' ')
  let mark := List.replicate start.length ' '
    ++ List.replicate (max 1 (min fault.length rest.length)) '^'
  ["TOML parse error at line " ++ number.repr ++ ", column " ++ (start.length + 1).repr,
    gutter ++ " |", number.repr ++ " | " ++ String.ofList line,
    gutter ++ " | " ++ String.ofList mark] ++ fault.reason.splitOn "\n" ++ [""]

end Fault

/-- Why a settings file makes no settings. -/
inductive LoadError
  /-- The file cannot be read as text. -/
  | unreadable
  /-- The document is at fault. -/
  | malformed (source : String) (fault : Fault)
  /-- The title is blank. -/
  | blankTitle
  deriving DecidableEq, Repr

/-- The settings that a document makes, with a title that is not blank. -/
def load (source : String) : Except LoadError Settings :=
  match read source with
  | .error fault => .error (.malformed source fault)
  | .ok settings =>
    if Text.isBlankString settings.defaultTitle then .error .blankTitle else .ok settings

/-- The settings that the octets of a file make, if the file can be read. -/
def loadFile (octets : Option (List UInt8)) : Except LoadError Settings :=
  match octets.bind Text.Utf8.decode? with
  | some chars => load (String.ofList chars)
  | none => .error .unreadable

end Panes.Settings.Document
