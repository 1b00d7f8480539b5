import Mathlib
import SqlMapper.Dialect.Basic
import SqlMapper.Json.Doc

/-!
# String and byte literals

An engine reads a string literal from its opening quote to the first quote that is
not written twice; MySQL, in its default mode, also reads backslash escapes inside
it (`readStringLiteral`). Bytes are written in hexadecimal: as a `bytea` string
`'\x…'` on PostgreSQL, as a blob literal `X'…'` elsewhere.

Main statements: on every engine the literal of a string reads back as exactly that
string, and the reading stops at its closing quote, whatever text that does not
start with a quote follows, so no string can close its literal early or run on past
it; the literal of bytes reads back as exactly those bytes.
-/

set_option autoImplicit false

namespace SqlMapper

open SqlMapper.Json SqlMapper.Text

/-- Whether an engine reads backslash escapes inside string literals, as MySQL does by default. -/
def Dialect.backslashEscapes : Dialect → Bool
  | .mysql _ => true
  | _ => false

/-- The characters a backslash escape stands for in a MySQL string literal; `\%` and `\_`
stay as written, and any other character stands for itself. -/
def mysqlEscape (c : Char) : List Char :=
  match c with
  | '0' => ['\x00']
  | 'b' => ['\x08']
  | 'n' => ['\n']
  | 'r' => ['\r']
  | 't' => ['\t']
  | 'Z' => ['\x1a']
  | '%' => ['\\', '%']
  | '_' => ['\\', '_']
  | c => [c]

/-- Where a reader of a string literal stands, with the characters it denotes so far. -/
inductive StringReading where
  /-- Inside the literal. -/
  | body (read : List Char)
  /-- After a quote: it closes the literal unless a second quote follows. -/
  | closing (read : List Char)
  /-- After a backslash that starts an escape. -/
  | escape (read : List Char)

/-- Reads the rest of a string literal: the characters it denotes and the text after it. An
engine without backslash escapes holds no NUL in its text: the literal stops being one there. -/
def readStringBody (escapes : Bool) : StringReading → List Char → Option (List Char × List Char)
  | .body read, c :: rest =>
    if c = '\'' then readStringBody escapes (.closing read) rest
    else if escapes && c = '\\' then readStringBody escapes (.escape read) rest
    else if !escapes && c = '\x00' then none
    else readStringBody escapes (.body (read ++ [c])) rest
  | .body _, [] => none
  | .closing read, c :: rest =>
    if c = '\'' then readStringBody escapes (.body (read ++ ['\''])) rest else some (read, c :: rest)
  | .closing read, [] => some (read, [])
  | .escape read, c :: rest => readStringBody escapes (.body (read ++ mysqlEscape c)) rest
  | .escape _, [] => none

/-- Reads a string literal from the front of a text as an engine does. -/
def readStringLiteral (d : Dialect) : List Char → Option (List Char × List Char)
  | '\'' :: rest => readStringBody d.backslashEscapes (.body []) rest
  | _ => none

/-- Whether an engine's string literals can hold a text: any text where backslash escapes
can write a NUL, text without NUL elsewhere. -/
def Dialect.holdsString (d : Dialect) (cs : List Char) : Bool :=
  d.backslashEscapes || !cs.contains '\x00'

theorem Dialect.holdsString_cons (d : Dialect) (c : Char) (cs : List Char) :
    d.holdsString (c :: cs) = (d.holdsString [c] && d.holdsString cs) := by
  cases d <;> simp [holdsString, backslashEscapes, Bool.not_or]

/-- The characters a character of a string is written as inside its literal. -/
def Dialect.literalChars (d : Dialect) (c : Char) : List Char :=
  match d with
  | .mysql _ => if c == '\\' then ['\\', '\\'] else if c == '\'' then ['\'', '\''] else if c == '\x00' then ['\\', '0'] else [c]
  | _ => if c == '\'' then ['\'', '\''] else [c]

theorem Dialect.quoteString_toList (d : Dialect) (s : String) :
    (d.quoteString s).toList = '\'' :: (s.toList.flatMap d.literalChars ++ ['\'']) := by
  -- the model writes each character by the same rule, with its conditions as boolean tests
  cases d <;> simp only [quoteString] <;> simp <;> congr 1 <;> funext c <;> simp [literalChars]

/-! ## Reading strings back -/

/-- One character the engine can hold, as written inside its literal, is read as itself. -/
theorem readStringBody_literalChars (d : Dialect) {c : Char} (held : d.holdsString [c] = true)
    (read rest : List Char) :
    readStringBody d.backslashEscapes (.body read) (d.literalChars c ++ rest) =
      readStringBody d.backslashEscapes (.body (read ++ [c])) rest := by
  by_cases quote : c = '\''
  · -- a quote is written twice: the first looks like the end, the second takes it back
    subst quote
    cases d <;> simp [Dialect.literalChars, readStringBody]
  · cases d with
    | mysql version =>
      by_cases backslash : c = '\\'
      · subst backslash
        simp [Dialect.literalChars, readStringBody, Dialect.backslashEscapes, mysqlEscape]
      · by_cases nul : c = '\x00'
        · subst nul
          simp [Dialect.literalChars, readStringBody, Dialect.backslashEscapes, mysqlEscape]
        · simp [Dialect.literalChars, readStringBody, Dialect.backslashEscapes, quote, backslash, nul]
    | sqlite =>
      have nul : c ≠ '\x00' := fun same => by simp [Dialect.holdsString, Dialect.backslashEscapes, same] at held
      simp [Dialect.literalChars, readStringBody, Dialect.backslashEscapes, quote, nul]
    | postgres =>
      have nul : c ≠ '\x00' := fun same => by simp [Dialect.holdsString, Dialect.backslashEscapes, same] at held
      simp [Dialect.literalChars, readStringBody, Dialect.backslashEscapes, quote, nul]

/-- The body of a literal the engine can hold is read whole, whatever follows it. -/
theorem readStringBody_flatMap (d : Dialect) {cs : List Char} (held : d.holdsString cs = true)
    (read tail : List Char) :
    readStringBody d.backslashEscapes (.body read) (cs.flatMap d.literalChars ++ tail) =
      readStringBody d.backslashEscapes (.body (read ++ cs)) tail := by
  induction cs generalizing read with
  | nil => simp
  | cons c cs ih =>
    rw [Dialect.holdsString_cons, Bool.and_eq_true] at held
    rw [List.flatMap_cons, List.append_assoc, readStringBody_literalChars d held.1, ih held.2,
      List.append_assoc, List.singleton_append]

/-- On an engine without backslash escapes the body of a literal with a NUL is no literal. -/
theorem readStringBody_flatMap_nul {d : Dialect} (plain : d.backslashEscapes = false) {cs : List Char}
    (nul : '\x00' ∈ cs) (read tail : List Char) :
    readStringBody d.backslashEscapes (.body read) (cs.flatMap d.literalChars ++ tail) = none := by
  induction cs generalizing read with
  | nil => simp at nul
  | cons c cs ih =>
    by_cases first : c = '\x00'
    · -- the engine writes a NUL as it is, and reads no further
      subst first
      cases d <;> simp_all [Dialect.literalChars, readStringBody, Dialect.backslashEscapes]
    · have held : d.holdsString [c] = true := by simp [Dialect.holdsString, Ne.symm first]
      have later : '\x00' ∈ cs := by simpa [Ne.symm first] using nul
      rw [List.flatMap_cons, List.append_assoc, readStringBody_literalChars d held, ih later]

/-- A quote that no second quote follows closes the literal. -/
theorem readStringBody_closing {escapes : Bool} {rest : List Char} (stops : ∀ c ∈ rest.head?, c ≠ '\'')
    (read : List Char) :
    readStringBody escapes (.body read) ('\'' :: rest) = some (read, rest) := by
  cases rest with
  | nil => simp [readStringBody]
  | cons c tail => simp [readStringBody, stops c rfl]

/-- The literal of a string reads back as exactly the string when the engine can hold it,
and as nothing otherwise; the reading stops at its closing quote, whatever text that does
not start with a quote follows. -/
theorem Dialect.readStringLiteral_quoteString (d : Dialect) (s : String) {rest : List Char}
    (stops : ∀ c ∈ rest.head?, c ≠ '\'') :
    readStringLiteral d ((d.quoteString s).toList ++ rest) =
      if d.holdsString s.toList then some (s.toList, rest) else none := by
  rw [quoteString_toList, List.cons_append, List.append_assoc, List.singleton_append, readStringLiteral]
  split
  · next held => rw [readStringBody_flatMap d held, List.nil_append, readStringBody_closing stops]
  · next refused =>
    -- only an engine without backslash escapes refuses a text, and only one with a NUL
    have plain : d.backslashEscapes = false := by simp_all [holdsString]
    have nul : '\x00' ∈ s.toList := by simpa [holdsString, plain] using refused
    exact readStringBody_flatMap_nul plain nul [] _

/-! ## Bytes -/

/-- Bytes from hexadecimal digits, two to a byte: none at a character that is no digit, or
at a digit left alone at the end. -/
def hexPairs : List Char → Option (List UInt8)
  | [] => some []
  | a :: b :: rest => do
    let high ← Json.hexDigit? a
    let low ← Json.hexDigit? b
    let bs ← hexPairs rest
    pure ((high * 16 + low).toUInt8 :: bs)
  | [_] => none

/-- Reads a blob literal `X'…'`, the form of bytes on SQLite and MySQL: its bytes and the
text after it. -/
def readBlobLiteral : List Char → Option (List UInt8 × List Char)
  | x :: '\'' :: rest =>
    if x = 'X' ∨ x = 'x' then
      match rest.dropWhile (· != '\'') with
      | '\'' :: after => (hexPairs (rest.takeWhile (· != '\''))).map (·, after)
      | _ => none
    else none
  | _ => none

/-- The bytes PostgreSQL reads from the text of a `bytea` in its hexadecimal form `\x…`. -/
def readByteaHex : List Char → Option (List UInt8)
  | '\\' :: 'x' :: digits => hexPairs digits
  | _ => none

/-- The two hexadecimal digits of a byte. -/
def byteDigits (b : UInt8) : List Char := [Nat.digitChar (b.toNat / 16), Nat.digitChar (b.toNat % 16)]

theorem hexDigit?_digitChar : ∀ k < 16, Json.hexDigit? (Nat.digitChar k) = some k := by decide

theorem digitChar_ne_quote : ∀ k < 16, Nat.digitChar k ≠ '\'' := by decide

theorem digitChar_ne_nul : ∀ k < 16, Nat.digitChar k ≠ '\x00' := by decide

theorem hexPadded_byte (b : UInt8) : (hexPadded 2 b.toNat).toList = byteDigits b := by
  have small : b.toNat < 256 := b.toNat_lt
  simp only [hexPadded, String.toList_ofList, byteDigits]
  rw [Nat.toDigits_eq_if (by decide)]
  split
  · next one =>
    -- one digit, padded with a zero
    simp [Nat.div_eq_of_lt one, Nat.mod_eq_of_lt one]
  · next two =>
    rw [Nat.toDigits_of_lt_base (by omega)]
    simp

theorem Dialect.hexOf_toList (bs : List UInt8) : (Dialect.hexOf bs).toList = bs.flatMap byteDigits := by
  simp [Dialect.hexOf, String.toList_join, List.flatMap_map, hexPadded_byte]

/-- Every character of the hexadecimal digits of bytes is a hexadecimal digit. -/
theorem mem_byteDigits {b : UInt8} {c : Char} (mem : c ∈ byteDigits b) :
    ∃ k < 16, Nat.digitChar k = c := by
  have small : b.toNat < 256 := b.toNat_lt
  simp only [byteDigits, List.mem_cons, List.not_mem_nil, or_false] at mem
  rcases mem with rfl | rfl
  · exact ⟨b.toNat / 16, by omega, rfl⟩
  · exact ⟨b.toNat % 16, Nat.mod_lt _ (by decide), rfl⟩

/-- The hexadecimal digits of bytes read back as the bytes. -/
theorem hexPairs_flatMap (bs : List UInt8) : hexPairs (bs.flatMap byteDigits) = some bs := by
  induction bs with
  | nil => rfl
  | cons b bs ih =>
    have small : b.toNat < 256 := b.toNat_lt
    have high := hexDigit?_digitChar (b.toNat / 16) (by omega)
    have low := hexDigit?_digitChar (b.toNat % 16) (by omega)
    have whole : (b.toNat / 16 * 16 + b.toNat % 16).toUInt8 = b := by
      rw [Nat.div_add_mod']
      exact UInt8.ofNat_toNat
    simp only [List.flatMap_cons, byteDigits, List.cons_append, List.nil_append, hexPairs, high, low, ih,
      Option.bind_eq_bind, Option.bind_some, whole]
    rfl

theorem byteDigits_no_quote (bs : List UInt8) : ∀ c ∈ bs.flatMap byteDigits, c ≠ '\'' := by
  intro c mem
  obtain ⟨b, -, inB⟩ := List.mem_flatMap.1 mem
  obtain ⟨k, small, rfl⟩ := mem_byteDigits inB
  exact digitChar_ne_quote k small

/-- On SQLite and MySQL the literal of bytes is a blob literal that reads back as exactly
those bytes, whatever text follows. -/
theorem readBlobLiteral_bytesLiteral {d : Dialect} (blob : d ≠ .postgres) (bs : List UInt8)
    (rest : List Char) : readBlobLiteral ((d.bytesLiteral bs).toList ++ rest) = some (bs, rest) := by
  have written : (d.bytesLiteral bs).toList = 'X' :: '\'' :: (bs.flatMap byteDigits ++ ['\'']) := by
    cases d <;> simp_all [Dialect.bytesLiteral, Dialect.hexOf_toList]
  have kept : ∀ c ∈ bs.flatMap byteDigits, (c != '\'') = true := by
    simpa using byteDigits_no_quote bs
  rw [written]
  simp [readBlobLiteral, List.takeWhile_append_of_pos kept, List.dropWhile_append_of_pos kept,
    hexPairs_flatMap]

/-- PostgreSQL writes a string with no quote as it is. -/
theorem flatMap_literalChars_postgres {cs : List Char} (noQuote : ∀ c ∈ cs, c ≠ '\'') :
    cs.flatMap Dialect.postgres.literalChars = cs := by
  induction cs with
  | nil => rfl
  | cons c cs ih => simp_all [Dialect.literalChars]

/-- On PostgreSQL the literal of bytes is the string literal of their `\x` text, which the
engine can hold and which reads back as exactly those bytes. -/
theorem Dialect.bytesLiteral_postgres (bs : List UInt8) :
    Dialect.postgres.bytesLiteral bs = Dialect.postgres.quoteString ("\\x" ++ Dialect.hexOf bs) ∧
      Dialect.postgres.holdsString ("\\x" ++ Dialect.hexOf bs).toList = true ∧
      readByteaHex ("\\x" ++ Dialect.hexOf bs).toList = some bs := by
  have noNul : '\x00' ∉ bs.flatMap byteDigits := by
    intro mem
    obtain ⟨b, -, inB⟩ := List.mem_flatMap.1 mem
    obtain ⟨k, small, same⟩ := mem_byteDigits inB
    exact digitChar_ne_nul k small same
  refine ⟨?_, by simp [holdsString, Dialect.hexOf_toList, noNul], by simp [readByteaHex, Dialect.hexOf_toList, hexPairs_flatMap]⟩
  -- no digit is a quote, so the text is written as it is
  have noQuote : ∀ c ∈ '\\' :: 'x' :: bs.flatMap byteDigits, c ≠ '\'' := by
    simpa using byteDigits_no_quote bs
  rw [← String.toList_inj, quoteString_toList]
  simp only [bytesLiteral, String.toList_append, Dialect.hexOf_toList]
  rw [show ("\\x".toList ++ bs.flatMap byteDigits) = '\\' :: 'x' :: bs.flatMap byteDigits from rfl,
    flatMap_literalChars_postgres noQuote]
  rfl

end SqlMapper
