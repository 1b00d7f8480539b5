import SqlMapper.Text.PrintData
import SqlMapper.Text.Surrogate

/-!
# Display forms of text and bytes

The display form of a string is the string in quotes, written so that it can
be read back: single quotes unless the text holds a single quote and no double
quote, a backslash before the quote and before a backslash, `\t`, `\n` and
`\r` for those controls, and a hexadecimal escape for every other character
that is not printable. The display form of a byte string is the same with a
`b` in front, every byte outside printable ASCII written as `\xhh`.
-/

namespace SqlMapper.Text

/-- Printable characters stand for themselves in a display form. -/
def isPrintable (c : Char) : Bool :=
  let n := c.toNat
  if n < 0x7F then 0x20 ≤ n
  else !unprintableSpans.any fun span => span.1 ≤ n && n ≤ span.2

/-- Lowercase hexadecimal digits of `n`, padded with zeros to `width`. -/
def hexPadded (width n : Nat) : String :=
  let ds := Nat.toDigits 16 n
  String.ofList (List.replicate (width - ds.length) '0' ++ ds)

/-- The quote a display form uses for text with these characters. -/
def displayQuote (cs : List Char) : Char :=
  if cs.contains '\'' && !cs.contains '"' then '"' else '\''

/-- One character inside a display form quoted with `q`. -/
def displayChar (q c : Char) : String :=
  if c == q || c == '\\' then "\\" ++ c.toString
  else if c == '\t' then "\\t"
  else if c == '\n' then "\\n"
  else if c == '\r' then "\\r"
  else if let some n := surrogate? c then "\\u" ++ hexPadded 4 n
  else if isPrintable c then c.toString
  else if c.toNat < 0x100 then "\\x" ++ hexPadded 2 c.toNat
  else if c.toNat < 0x10000 then "\\u" ++ hexPadded 4 c.toNat
  else "\\U" ++ hexPadded 8 c.toNat

/-- The display form of a string: `'it'` for `it`, `"it's"` for `it's`. -/
def displayString (s : String) : String :=
  let cs := s.toList
  let q := displayQuote cs
  q.toString ++ String.join (cs.map (displayChar q)) ++ q.toString

/-- One byte inside a display form quoted with `q`. -/
def displayByte (q : Char) (b : UInt8) : String :=
  let c := Char.ofNat b.toNat
  if c == q || c == '\\' then "\\" ++ c.toString
  else if c == '\t' then "\\t"
  else if c == '\n' then "\\n"
  else if c == '\r' then "\\r"
  else if b < 0x20 || b ≥ 0x7F then "\\x" ++ hexPadded 2 b.toNat
  else c.toString

/-- The display form of a byte string: `b'\x00A'`. -/
def displayBytes (bs : List UInt8) : String :=
  let cs := bs.map fun b => Char.ofNat b.toNat
  let q := displayQuote cs
  "b" ++ q.toString ++ String.join (bs.map (displayByte q)) ++ q.toString

end SqlMapper.Text
