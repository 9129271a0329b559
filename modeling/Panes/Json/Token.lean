import Panes.Json.Number

/-!
# JSON tokens

A text is first cut into tokens. Two kinds of fault do not stop the cutting, since they are forgiven
in places that nobody reads: a text with half a surrogate pair in it, and a number that is too
great. Such a token has no value.
-/

namespace Panes.Json

/-- A token of a JSON text. -/
inductive Token
  /-- An opening bracket. -/
  | openArray
  /-- A closing bracket. -/
  | closeArray
  /-- An opening brace. -/
  | openObject
  /-- A closing brace. -/
  | closeObject
  /-- A comma. -/
  | comma
  /-- A colon. -/
  | colon
  /-- The word `null`. -/
  | null
  /-- The word `true` or `false`. -/
  | bool (value : Bool)
  /-- A number, without value when it is too great. -/
  | number (value : Option Number)
  /-- A text, without value when it holds half a surrogate pair. -/
  | string (value : Option String)
  deriving DecidableEq, Repr

/-- The four characters that may stand between tokens. -/
def isSpace (char : Char) : Bool :=
  char == ' ' || char == '\t' || char == '\n' || char == '\r'

/-- The value of a hexadecimal digit in either case. -/
def hexValue? (char : Char) : Option Nat :=
  if '0' ≤ char ∧ char ≤ '9' then some (char.toNat - '0'.toNat)
  else if 'a' ≤ char ∧ char ≤ 'f' then some (char.toNat - 'a'.toNat + 10)
  else if 'A' ≤ char ∧ char ≤ 'F' then some (char.toNat - 'A'.toNat + 10)
  else none

/-- The number that four hexadecimal digits write. -/
def hexUnit? (first second third fourth : Char) : Option Nat := do
  let first ← hexValue? first
  let second ← hexValue? second
  let third ← hexValue? third
  let fourth ← hexValue? fourth
  return ((first * 16 + second) * 16 + third) * 16 + fourth

/-- A part of a text: a character, or a numbered code unit. -/
inductive Piece
  /-- A character that stands for itself or is named by a letter. -/
  | char (char : Char)
  /-- A code unit of UTF-16 given by its number. -/
  | unit (code : Nat)
  deriving DecidableEq, Repr

/-- The code unit opens a surrogate pair. -/
def isHighSurrogate (code : Nat) : Bool := 0xd800 ≤ code && code ≤ 0xdbff

/-- The code unit closes a surrogate pair. -/
def isLowSurrogate (code : Nat) : Bool := 0xdc00 ≤ code && code ≤ 0xdfff

/-- The characters of a text, if each surrogate has its other half. -/
def joinPieces? : List Piece → Option (List Char)
  | [] => some []
  | .char char :: pieces => (joinPieces? pieces).map (char :: ·)
  | .unit high :: .unit low :: pieces =>
    if isHighSurrogate high then
      if isLowSurrogate low then
        (joinPieces? pieces).map
          (Char.ofNat (0x10000 + (high - 0xd800) * 0x400 + (low - 0xdc00)) :: ·)
      else none
    else if isLowSurrogate high then none
    else (joinPieces? (.unit low :: pieces)).map (Char.ofNat high :: ·)
  | .unit code :: pieces =>
    if isHighSurrogate code || isLowSurrogate code then none
    else (joinPieces? pieces).map (Char.ofNat code :: ·)

/-- The character that a letter after a backslash names. -/
def namedEscape? : Char → Option Char
  | '"' => some '"'
  | '\\' => some '\\'
  | '/' => some '/'
  | 'b' => some (Char.ofNat 0x08)
  | 'f' => some (Char.ofNat 0x0c)
  | 'n' => some '\n'
  | 'r' => some '\r'
  | 't' => some '\t'
  | _ => none

/-- The parts of a text up to its closing quote, and what follows. -/
def takePieces? : List Char → Option (List Piece × List Char)
  | [] => none
  | '"' :: rest => some ([], rest)
  | '\\' :: 'u' :: first :: second :: third :: fourth :: rest => do
    let code ← hexUnit? first second third fourth
    let (pieces, rest) ← takePieces? rest
    return (.unit code :: pieces, rest)
  | '\\' :: letter :: rest => do
    let char ← namedEscape? letter
    let (pieces, rest) ← takePieces? rest
    return (.char char :: pieces, rest)
  | char :: rest =>
    if char.toNat < 0x20 ∨ char = '\\' then none
    else do
      let (pieces, rest) ← takePieces? rest
      return (.char char :: pieces, rest)

/-- The digits a text starts with, and what follows. -/
def takeDigits (text : List Char) : List Nat × List Char :=
  ((text.takeWhile Char.isDigit).map fun char => char.toNat - '0'.toNat,
    text.dropWhile Char.isDigit)

/-- The exponent a text starts with, if it starts with one, and what follows. An exponent needs a
digit. -/
def takeExponent? (text : List Char) : Option (Option (Bool × List Nat) × List Char) :=
  let finish (negative : Bool) (text : List Char) :=
    match takeDigits text with
    | ([], _) => none
    | (digits, rest) => some (some (negative, digits), rest)
  let signed : List Char → Option (Option (Bool × List Nat) × List Char)
    | '-' :: text => finish true text
    | '+' :: text => finish false text
    | text => finish false text
  match text with
  | 'e' :: text => signed text
  | 'E' :: text => signed text
  | text => some (none, text)

/-- The fraction a text starts with, if it starts with one, and what follows. A fraction needs a
digit. -/
def takeFractionDigits? : List Char → Option (Option (List Nat) × List Char)
  | '.' :: text =>
    match takeDigits text with
    | ([], _) => none
    | (digits, rest) => some (some digits, rest)
  | text => some (none, text)

/-- The numeral a text starts with after a sign, and what follows. A zero stands alone before the
point. -/
def takeUnsigned? (negative : Bool) (text : List Char) : Option (Numeral × List Char) :=
  match takeDigits text with
  | ([], _) => none
  | (0 :: _ :: _, _) => none
  | (whole, rest) => do
    let (fraction, rest) ← takeFractionDigits? rest
    let (exponent, rest) ← takeExponent? rest
    return (⟨negative, whole, fraction, exponent⟩, rest)

/-- The numeral a text starts with, and what follows. -/
def takeNumeral? : List Char → Option (Numeral × List Char)
  | '-' :: text => takeUnsigned? true text
  | text => takeUnsigned? false text

/-- The token a text starts with, and what follows. -/
def takeToken? : List Char → Option (Token × List Char)
  | '[' :: rest => some (.openArray, rest)
  | ']' :: rest => some (.closeArray, rest)
  | '{' :: rest => some (.openObject, rest)
  | '}' :: rest => some (.closeObject, rest)
  | ',' :: rest => some (.comma, rest)
  | ':' :: rest => some (.colon, rest)
  | 'n' :: 'u' :: 'l' :: 'l' :: rest => some (.null, rest)
  | 't' :: 'r' :: 'u' :: 'e' :: rest => some (.bool true, rest)
  | 'f' :: 'a' :: 'l' :: 's' :: 'e' :: rest => some (.bool false, rest)
  | '"' :: rest => do
    let (pieces, rest) ← takePieces? rest
    return (.string ((joinPieces? pieces).map String.ofList), rest)
  | text => do
    let (numeral, rest) ← takeNumeral? text
    return (.number numeral.number?, rest)

/-- The tokens of a text, given at least as much fuel as it has characters. -/
def tokensWithin : Nat → List Char → Option (List Token)
  | _, [] => some []
  | 0, _ :: _ => none
  | fuel + 1, char :: text =>
    if isSpace char then
      tokensWithin fuel text
    else do
      let (token, rest) ← takeToken? (char :: text)
      let tokens ← tokensWithin fuel rest
      return token :: tokens

/-- The tokens of a text. Each takes at least one character, so the length bounds their number. -/
def tokens? (text : List Char) : Option (List Token) := tokensWithin text.length text

end Panes.Json
