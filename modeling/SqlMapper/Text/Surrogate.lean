/-!
# Lone surrogates

Text read from JSON may hold a lone UTF-16 surrogate, a code point in
`D800`–`DFFF` that no character is. Each of them stands in text as one of
the last 2048 code points, `10F800`–`10FFFF`, in order, so that text can
hold it as one character. It is written back as its escape, and text that
holds one cannot be encoded as UTF-8.
-/

namespace SqlMapper.Text

/-- The code point that stands for the surrogate `D800`. -/
def surrogateBase : Nat := 0x10F800

/-- The character that stands for a surrogate code point. -/
def ofSurrogate (code : Nat) : Char := Char.ofNat (surrogateBase + (code - 0xD800))

/-- The surrogate code point a character stands for, if it stands for one. -/
def surrogate? (c : Char) : Option Nat :=
  if c.toNat ≥ surrogateBase then some (c.toNat - surrogateBase + 0xD800) else none

/-- The surrogate `D800` stands as the first of the last 2048 code points. -/
example : surrogate? (ofSurrogate 0xD800) = some 0xD800 := by decide

end SqlMapper.Text
