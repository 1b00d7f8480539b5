import SqlMapper.Text.Case

/-!
# Decimal digits of every script

Unicode gives the decimal digits of each script as runs of ten code points in
order, zero first. The table holds the zero of every run of Unicode 14; a
character is a digit when it lies within ten of a run's zero, and its value
is its distance from that zero.

Number readers see text with these digits as ASCII digits and every blank
beyond ASCII as a space, and then trim only the ASCII blanks.
-/

namespace SqlMapper.Text

/-- The first code point, the digit zero, of each run of decimal digits. -/
def digitZeros : List Nat := [
  0x30, 0x660, 0x6F0, 0x7C0, 0x966, 0x9E6, 0xA66, 0xAE6,
  0xB66, 0xBE6, 0xC66, 0xCE6, 0xD66, 0xDE6, 0xE50, 0xED0,
  0xF20, 0x1040, 0x1090, 0x17E0, 0x1810, 0x1946, 0x19D0, 0x1A80,
  0x1A90, 0x1B50, 0x1BB0, 0x1C40, 0x1C50, 0xA620, 0xA8D0, 0xA900,
  0xA9D0, 0xA9F0, 0xAA50, 0xABF0, 0xFF10, 0x104A0, 0x10D30, 0x11066,
  0x110F0, 0x11136, 0x111D0, 0x112F0, 0x11450, 0x114D0, 0x11650, 0x116C0,
  0x11730, 0x118E0, 0x11950, 0x11C50, 0x11D50, 0x11DA0, 0x16A60, 0x16AC0,
  0x16B50, 0x1D7CE, 0x1D7D8, 0x1D7E2, 0x1D7EC, 0x1D7F6, 0x1E140, 0x1E2F0,
  0x1E950, 0x1FBF0]

/-- The value of a decimal digit of any script. -/
def digitValue? (c : Char) : Option Nat :=
  let n := c.toNat
  (digitZeros.find? fun z => z ≤ n && n < z + 10).map fun z => n - z

/-- Text as the number readers see it: a digit of any script as its ASCII
digit, and a blank beyond ASCII as a space; none when any other character
beyond ASCII stands in it. -/
def numeralAscii? (cs : List Char) : Option (List Char) :=
  cs.mapM fun c =>
    if c.toNat < 127 then some c
    else if isBlank c then some ' '
    else (digitValue? c).map fun d => Char.ofNat (48 + d)

/-- Whether a character is an ASCII blank: a space, a tab, or a line, page or
vertical break. -/
def isAsciiBlank (c : Char) : Bool := c == ' ' || (9 ≤ c.toNat && c.toNat ≤ 13)

/-- Characters without the ASCII blanks at either end. -/
def trimAscii (cs : List Char) : List Char :=
  ((cs.dropWhile isAsciiBlank).reverse.dropWhile isAsciiBlank).reverse

/-- Every digit zero of the table reads as zero. -/
example : (digitZeros.all fun z => digitValue? (Char.ofNat z) == some 0) = true := by decide

end SqlMapper.Text
