/-!
# Percent escapes

In the address of a document an octet may be written as `%` and its two hexadecimal digits. The
number after `%` is read generously, with a plus sign allowed before a single digit, and a `%` that
no number follows stands for itself.
-/

namespace Panes.Text.Percent

/-- The octet `%`. -/
def escape : UInt8 := 0x25

/-- The value of a hexadecimal digit in either case. -/
def digitValue? (octet : UInt8) : Option Nat :=
  let code := octet.toNat
  if 0x30 ≤ code ∧ code ≤ 0x39 then some (code - 0x30)
  else if 0x41 ≤ code ∧ code ≤ 0x46 then some (code - 0x37)
  else if 0x61 ≤ code ∧ code ≤ 0x66 then some (code - 0x57)
  else none

/-- The octet that two octets after `%` denote: two digits, or a plus sign and a digit. -/
def octet? (first second : UInt8) : Option UInt8 :=
  match digitValue? first, digitValue? second with
  | some high, some low => some (high * 16 + low).toUInt8
  | none, some low => if first = 0x2b then some low.toUInt8 else none
  | _, none => none

/-- Undo the escapes, from left to right. -/
def decode : List UInt8 → List UInt8
  | [] => []
  | [octet] => [octet]
  | [octet, last] => [octet, last]
  | octet :: first :: second :: rest =>
    if octet = escape then
      match octet? first second with
      | some denoted => denoted :: decode rest
      | none => octet :: decode (first :: second :: rest)
    else
      octet :: decode (first :: second :: rest)

end Panes.Text.Percent
