import SqlMapper.Text.Display

/-!
# Decoding UTF-8

Bytes decode to text when they are well-formed UTF-8: a byte below `0x80`
stands for itself, and a lead byte `C2`–`F4` starts a sequence of two to four
bytes whose continuation bytes lie in `80`–`BF`, narrowed after `E0`, `ED`,
`F0` and `F4` so that overlong forms, surrogates and values past `10FFFF` are
refused. A failure names the bytes it covers and why: an invalid start byte,
an invalid continuation byte, or the end of the data inside a sequence.
-/

namespace SqlMapper.Text

/-- Why bytes are no UTF-8, with the first byte and the count of bytes that the failure covers. -/
structure Utf8Error where
  start : Nat
  length : Nat
  reason : String
  firstByte : UInt8

/-- The message of a decoding failure. -/
def Utf8Error.message (e : Utf8Error) : String :=
  if e.length == 1 then
    "'utf-8' codec can't decode byte 0x" ++ hexPadded 2 e.firstByte.toNat ++ " in position " ++
      toString e.start ++ ": " ++ e.reason
  else
    "'utf-8' codec can't decode bytes in position " ++ toString e.start ++ "-" ++
      toString (e.start + e.length - 1) ++ ": " ++ e.reason

/-- The range of the first continuation byte after a lead byte. -/
def firstContinuation (lead : UInt8) : UInt8 × UInt8 :=
  if lead == 0xE0 then (0xA0, 0xBF)
  else if lead == 0xED then (0x80, 0x9F)
  else if lead == 0xF0 then (0x90, 0xBF)
  else if lead == 0xF4 then (0x80, 0x8F)
  else (0x80, 0xBF)

/-- The number of continuation bytes after a lead byte, if it can lead. -/
def continuationCount (lead : UInt8) : Option Nat :=
  if lead < 0x80 then some 0
  else if 0xC2 ≤ lead && lead ≤ 0xDF then some 1
  else if 0xE0 ≤ lead && lead ≤ 0xEF then some 2
  else if 0xF0 ≤ lead && lead ≤ 0xF4 then some 3
  else none

/-- Reads `count` continuation bytes of a sequence, the first within `first`,
giving the code point with `acc` in front and the bytes after them; a failure
gives how many bytes of the sequence were read and why. -/
def readContinuation : Nat → (UInt8 × UInt8) → Nat → Nat → List UInt8 → Except (Nat × String) (Nat × List UInt8)
  | 0, _, acc, _, rest => .ok (acc, rest)
  | n + 1, (lo, hi), acc, got, b :: rest =>
    if lo ≤ b && b ≤ hi then readContinuation n (0x80, 0xBF) (acc * 64 + (b.toNat - 0x80)) (got + 1) rest
    else .error (got, "invalid continuation byte")
  | _ + 1, _, _, got, [] => .error (got, "unexpected end of data")

/-- Decodes bytes from position `pos` on, the characters so far in `acc` nearest first. -/
def decodeFrom (pos : Nat) (acc : List Char) : List UInt8 → Except Utf8Error String
  | [] => .ok (String.ofList acc.reverse)
  | b :: rest =>
    match continuationCount b with
    | none => .error ⟨pos, 1, "invalid start byte", b⟩
    | some 0 => decodeFrom (pos + 1) (Char.ofNat b.toNat :: acc) rest
    | some n =>
      let leadBits := if n == 1 then b.toNat - 0xC0 else if n == 2 then b.toNat - 0xE0 else b.toNat - 0xF0
      match readContinuation n (firstContinuation b) leadBits 1 rest with
      | .ok (cp, _) => decodeFrom (pos + n + 1) (Char.ofNat cp :: acc) (rest.drop n)
      | .error (got, reason) => .error ⟨pos, got, reason, b⟩
termination_by bs => bs.length
decreasing_by all_goals simp_wf <;> omega

/-- The text UTF-8 bytes encode, or why they encode none. -/
def decodeUtf8 (bs : List UInt8) : Except Utf8Error String := decodeFrom 0 [] bs

/-- Decodes bytes as UTF-8 with each failure replaced: the bytes a failure
covers (an invalid start byte alone, or a sequence cut short) become one
U+FFFD, and decoding goes on after them. -/
def decodeReplacing (bs : List UInt8) : String := go (bs.length + 1) [] bs
where
  /-- Decodes with the characters so far in `acc`, nearest first; each step takes at least one byte. -/
  go : Nat → List Char → List UInt8 → String
    | 0, acc, _ => String.ofList acc.reverse
    | fuel + 1, acc, bs =>
      match bs with
      | [] => String.ofList acc.reverse
      | b :: rest =>
        match continuationCount b with
        | none => go fuel ('\uFFFD' :: acc) rest
        | some 0 => go fuel (Char.ofNat b.toNat :: acc) rest
        | some n =>
          let leadBits := if n == 1 then b.toNat - 0xC0 else if n == 2 then b.toNat - 0xE0 else b.toNat - 0xF0
          match readContinuation n (firstContinuation b) leadBits 1 rest with
          | .ok (cp, _) => go fuel (Char.ofNat cp :: acc) (rest.drop n)
          | .error (got, _) => go fuel ('\uFFFD' :: acc) (bs.drop (max got 1))

end SqlMapper.Text
