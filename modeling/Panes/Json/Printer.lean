import Panes.Json

/-!
# Printing JSON

Values are printed on one line without blanks.
-/

namespace Panes.Json

/-- Where the point of a decimal may stand for the decimal to be written without exponent, and how
an exponent is written. -/
structure Layout where
  /-- At most this many digits before the point. -/
  greatestPoint : Int
  /-- Fewer than this many zeros after the point before the first digit, counted downwards. -/
  leastPoint : Int
  /-- What stands before an exponent above zero. -/
  plus : List Char
  deriving DecidableEq, Repr

/-- Decimals are positional with up to thirteen digits before the point, or up to five zeros
after it. Exponents always have a sign. -/
def layout : Layout := ⟨13, -6, ['+']⟩

/-- The exponent of ten of a decimal with one digit before the point. -/
def exponentChars (layout : Layout) (exponent : Int) : List Char :=
  'e' :: ((if 0 < exponent then layout.plus else []) ++ exponent.repr.toList)

/-- A decimal without its sign. `digits` are its digits and `exponent` the power of ten of the last
one; a point always stands in a positional one. -/
def decimalChars (layout : Layout) (digits : List Char) (exponent : Int) : List Char :=
  let point : Int := digits.length + exponent
  if 0 ≤ exponent ∧ point ≤ layout.greatestPoint then
    digits ++ List.replicate exponent.toNat '0' ++ ['.', '0']
  else if 0 < point ∧ point ≤ layout.greatestPoint then
    digits.take point.toNat ++ ['.'] ++ digits.drop point.toNat
  else if layout.leastPoint < point ∧ point ≤ 0 then
    ['0', '.'] ++ List.replicate (-point).toNat '0' ++ digits
  else
    let fraction := digits.drop 1
    digits.take 1 ++ (if fraction.isEmpty then [] else '.' :: fraction)
      ++ exponentChars layout (point - 1)

/-- A number as it is printed. -/
def Number.chars : Number → List Char
  | .int value =>
    if value < 0 then '-' :: Nat.toDigits 10 value.natAbs else Nat.toDigits 10 value.natAbs
  | .decimal value =>
    (if value.negative then ['-'] else []) ++
      if value.digits = 0 then ['0', '.', '0']
      else decimalChars layout (Nat.toDigits 10 value.digits) value.exponent

/-- A hexadecimal digit in lower case. -/
def hexDigit (value : Nat) : Char := Nat.digitChar (value % 16)

/-- A character as it is printed between quotes. -/
def escapeChar (char : Char) : List Char :=
  match char with
  | '"' => ['\\', '"']
  | '\\' => ['\\', '\\']
  | '\n' => ['\\', 'n']
  | '\r' => ['\\', 'r']
  | '\t' => ['\\', 't']
  | char =>
    if char = Char.ofNat 0x08 then ['\\', 'b']
    else if char = Char.ofNat 0x0c then ['\\', 'f']
    else if char.toNat < 0x20 then
      ['\\', 'u', '0', '0', hexDigit (char.toNat / 16), hexDigit char.toNat]
    else [char]

/-- A text as it is printed. -/
def stringChars (text : String) : List Char := '"' :: (text.toList.flatMap escapeChar ++ ['"'])

mutual

/-- A value as it is printed. -/
def chars : Json → List Char
  | null => ['n', 'u', 'l', 'l']
  | bool true => ['t', 'r', 'u', 'e']
  | bool false => ['f', 'a', 'l', 's', 'e']
  | number value => value.chars
  | string value => stringChars value
  | array [] => ['[', ']']
  | array (element :: elements) => '[' :: (chars element ++ elementChars elements)
  | object [] => ['{', '}']
  | object ((key, value) :: members) =>
    '{' :: (stringChars key ++ ':' :: (chars value ++ memberChars members))

/-- The further elements of a list and its closing bracket. -/
def elementChars : List Json → List Char
  | [] => [']']
  | element :: elements => ',' :: (chars element ++ elementChars elements)

/-- The further members of an object and its closing brace. -/
def memberChars : List (String × Json) → List Char
  | [] => ['}']
  | (key, value) :: members =>
    ',' :: (stringChars key ++ ':' :: (chars value ++ memberChars members))

end

/-- A value as one line of text. -/
def render (value : Json) : String := String.ofList value.chars

end Panes.Json
