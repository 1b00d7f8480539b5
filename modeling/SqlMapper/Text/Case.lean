import SqlMapper.Text.CaseData

/-!
# Full case mapping and blank trimming

Case mapping of whole strings as the Unicode standard defines it: each letter
maps through the one-letter runs or to its several-letter form, and a capital
sigma becomes final sigma when a cased letter precedes it and none follows it,
looking through case-ignorable letters on both sides. Blank trimming removes
the Unicode white space at both ends, with or without the information
separators that some readers count as blanks.
-/

namespace SqlMapper.Text

/-- A run moves code point `n` when `n` lies in it on its step. -/
def CaseRun.covers (r : CaseRun) (n : Nat) : Bool :=
  r.first ≤ n && n ≤ r.last && (n - r.first) % r.step == 0

/-- The letter that the first run covering `c` moves it to, or `c` itself. -/
def mapByRuns (runs : List CaseRun) (c : Char) : Char :=
  match runs.find? (·.covers c.toNat) with
  | some r => Char.ofNat (c.toNat + r.shift).toNat
  | none => c

/-- Membership of a code point in a list of closed spans. -/
def inSpans (spans : List (Nat × Nat)) (n : Nat) : Bool :=
  spans.any fun span => span.1 ≤ n && n ≤ span.2

/-- Letters that sigma's context rule looks through. -/
def isCaseIgnorable (c : Char) : Bool := inSpans caseIgnorableSpans c.toNat

/-- Cased letters that sigma's context rule stops at. -/
def isCased (c : Char) : Bool := inSpans casedSpans c.toNat

/-- Lowercase form of one letter, context aside. -/
def lowerChar (c : Char) : List Char :=
  match lowerWide.lookup c.toNat with
  | some s => s.toList
  | none => [mapByRuns lowerRuns c]

/-- Uppercase form of one letter. -/
def upperChar (c : Char) : List Char :=
  match upperWide.lookup c.toNat with
  | some s => s.toList
  | none => [mapByRuns upperRuns c]

/-- A capital sigma is final when, past case-ignorable letters, a cased letter
stands before it (`before` is read nearest first) and none after it. -/
def sigmaIsFinal (before after : List Char) : Bool :=
  (match before.dropWhile isCaseIgnorable with
    | c :: _ => isCased c
    | [] => false) &&
  (match after.dropWhile isCaseIgnorable with
    | c :: _ => !isCased c
    | [] => true)

/-- Lowercase of `cs`, where `before` holds the letters already passed, nearest
first. -/
def lowerList (before : List Char) : List Char → List Char
  | [] => []
  | c :: rest =>
    let here := if c = 'Σ' then [if sigmaIsFinal before rest then 'ς' else 'σ'] else lowerChar c
    here ++ lowerList (c :: before) rest

/-- Full lowercase of a string. -/
def lower (s : String) : String := String.ofList (lowerList [] s.toList)

/-- Full uppercase of a string. -/
def upper (s : String) : String := String.ofList (s.toList.flatMap upperChar)

/-- Unicode white space: the characters trimming removes. -/
def isBlank (c : Char) : Bool :=
  let n := c.toNat
  (0x09 ≤ n && n ≤ 0x0D) || (0x1C ≤ n && n ≤ 0x20) || n == 0x85 || n == 0xA0 || n == 0x1680 ||
  (0x2000 ≤ n && n ≤ 0x200A) || n == 0x2028 || n == 0x2029 || n == 0x202F || n == 0x205F ||
  n == 0x3000

/-- A string without the white space at either end. -/
def trim (s : String) : String :=
  String.ofList ((s.toList.dropWhile isBlank).reverse.dropWhile isBlank).reverse

/-- The characters of the Unicode `White_Space` property: the blanks without
the four information separators `1C`–`1F`. -/
def isWhiteSpace (c : Char) : Bool := isBlank c && !(0x1C ≤ c.toNat && c.toNat ≤ 0x1F)

/-- Characters without the `White_Space` characters at either end. -/
def trimWhiteSpace (cs : List Char) : List Char :=
  ((cs.dropWhile isWhiteSpace).reverse.dropWhile isWhiteSpace).reverse

end SqlMapper.Text
