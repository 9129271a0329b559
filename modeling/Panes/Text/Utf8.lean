/-!
# UTF-8

A scalar value is written as one to four octets. The first octet gives the number of octets and the
range of the second one; all others are continuation octets `0x80`–`0xbf`. Reading comes in two
forms: `decode?` refuses ill-formed text, and `decodeLossy` puts one replacement character for each
longest run of octets that starts a character without finishing it.
-/

namespace Panes.Text.Utf8

/-- The octets of a character. -/
def encodeChar (char : Char) : List UInt8 :=
  let code := char.toNat
  if code < 0x80 then
    [code.toUInt8]
  else if code < 0x800 then
    [(0xc0 + code / 0x40).toUInt8, (0x80 + code % 0x40).toUInt8]
  else if code < 0x10000 then
    [(0xe0 + code / 0x1000).toUInt8, (0x80 + code / 0x40 % 0x40).toUInt8,
      (0x80 + code % 0x40).toUInt8]
  else
    [(0xf0 + code / 0x40000).toUInt8, (0x80 + code / 0x1000 % 0x40).toUInt8,
      (0x80 + code / 0x40 % 0x40).toUInt8, (0x80 + code % 0x40).toUInt8]

/-- The octets of a text. -/
def encode (text : List Char) : List UInt8 := text.flatMap encodeChar

/-- What a first octet announces. -/
structure Lead where
  /-- The bits of the scalar value that the octet carries. -/
  bits : Nat
  /-- Least and greatest second octet. -/
  second : Nat × Nat
  /-- How many continuation octets follow the second one. -/
  rest : Nat
  deriving DecidableEq, Repr

/-- What an octet from `0x80` on announces as the first of a character, if it can be one. The
narrowed ranges of second octets leave out overlong forms, surrogates and values past the last. -/
def lead? (octet : Nat) : Option Lead :=
  if 0xc2 ≤ octet ∧ octet ≤ 0xdf then some ⟨octet - 0xc0, (0x80, 0xbf), 0⟩
  else if octet = 0xe0 then some ⟨0, (0xa0, 0xbf), 1⟩
  else if octet = 0xed then some ⟨0xd, (0x80, 0x9f), 1⟩
  else if 0xe1 ≤ octet ∧ octet ≤ 0xef then some ⟨octet - 0xe0, (0x80, 0xbf), 1⟩
  else if octet = 0xf0 then some ⟨0, (0x90, 0xbf), 2⟩
  else if 0xf1 ≤ octet ∧ octet ≤ 0xf3 then some ⟨octet - 0xf0, (0x80, 0xbf), 2⟩
  else if octet = 0xf4 then some ⟨4, (0x80, 0x8f), 2⟩
  else none

/-- How far a character has been read. -/
inductive Point
  /-- Between characters. -/
  | between
  /-- Some octets are read: the bits so far, the range of the next octet, and how many octets
  follow that one. -/
  | within (bits : Nat) (range : Nat × Nat) (rest : Nat)
  deriving DecidableEq, Repr

/-- Read an octet where a character can begin: the characters that are done, and where that
leaves the reading. An octet that begins no character is `none`. -/
def begin (octet : UInt8) : List (Option Char) × Point :=
  if octet.toNat < 0x80 then
    ([some (Char.ofNat octet.toNat)], .between)
  else
    match lead? octet.toNat with
    | some lead => ([], .within lead.bits lead.second lead.rest)
    | none => ([none], .between)

/-- Read one octet. A character that it cuts short is `none`. -/
def step : Point → UInt8 → List (Option Char) × Point
  | .between, octet => begin octet
  | .within bits range rest, octet =>
    if range.1 ≤ octet.toNat ∧ octet.toNat ≤ range.2 then
      let bits := bits * 0x40 + octet.toNat % 0x40
      match rest with
      | 0 => ([some (Char.ofNat bits)], .between)
      | rest + 1 => ([], .within bits (0x80, 0xbf) rest)
    else
      let (chars, point) := begin octet
      (none :: chars, point)

/-- Read octets to their end. -/
def scan : Point → List UInt8 → List (Option Char)
  | .between, [] => []
  | .within .., [] => [none]
  | point, octet :: octets =>
    let (chars, next) := step point octet
    chars ++ scan next octets

/-- The character that stands for octets that cannot be read. -/
def replacement : Char := '\uFFFD'

/-- The text of well-formed octets. -/
def decode? (octets : List UInt8) : Option (List Char) := (scan .between octets).mapM id

/-- The text of any octets, with replacement characters for what cannot be read. -/
def decodeLossy (octets : List UInt8) : List Char :=
  (scan .between octets).map (·.getD replacement)

end Panes.Text.Utf8
