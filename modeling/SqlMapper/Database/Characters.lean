import SqlMapper.Database.Datum

/-!
# Characters of stored text

Stored text is a list of bytes, normally UTF-8. Functions that count, cut or
match characters take a character to be one byte below `0xC0`, or a byte from
`0xC0` up with every continuation byte (`10xxxxxx`) that follows it, however
many there are. The code of such a character is built from its bits; a code
below `0x80` built from several bytes, a surrogate, or `0xFFFE` and `0xFFFF`
read as `0xFFFD`. Functions that read text as a C string stop at its first
NUL byte.

`LIKE` matches `%` with any run of characters and `_` with any one, ASCII
letters of either case alike, and an escape character, when given, makes the
character after it plain; `GLOB` matches `*`, `?` and sets `[…]` (with `^`
to invert and ranges `a-z`), case kept.
-/

namespace SqlMapper.Database

/-- The bytes of a text up to its first NUL, as a function reading a C string sees it. -/
def cString (bs : List UInt8) : List UInt8 := bs.takeWhile (· != 0)

/-- Splits off the first character: one byte, with the continuation bytes
after it when it is `0xC0` or above. -/
def splitChar : List UInt8 → List UInt8 × List UInt8
  | [] => ([], [])
  | b :: rest =>
    if b ≥ 0xC0 then
      let cont := rest.takeWhile isContinuation
      (b :: cont, rest.drop cont.length)
    else ([b], rest)

/-- The characters of a text, each as its bytes. -/
def charsOf (bs : List UInt8) : List (List UInt8) :=
  let rec go : Nat → List UInt8 → List (List UInt8)
    | 0, _ => []
    | fuel + 1, bs =>
      match bs with
      | [] => []
      | _ => let (c, rest) := splitChar bs; c :: go fuel rest
  go bs.length bs

/-- The number of characters of a text up to its first NUL. -/
def charCount (bs : List UInt8) : Nat := (charsOf (cString bs)).length

/-- The bits a lead byte gives a character's code. -/
def leadBits (b : UInt8) : Nat :=
  let n := b.toNat
  if n < 0xE0 then n - 0xC0
  else if n < 0xF0 then n - 0xE0
  else if n < 0xF8 then n - 0xF0
  else if n < 0xFC then n - 0xF8
  else if n < 0xFE then n - 0xFC
  else 0

/-- The code of a character given as its bytes. -/
def charCode : List UInt8 → Nat
  | [] => 0
  | b :: cont =>
    if b < 0xC0 then b.toNat
    else
      let c := cont.foldl (fun c x => (c * 64 + (x &&& 0x3F).toNat) % Nat.pow 2 32) (leadBits b)
      if c < 0x80 || c / 0x800 == 0xD800 / 0x800 || c / 2 == 0xFFFE / 2 then 0xFFFD else c

/-- The UTF-8 bytes of a code point. -/
def encodeCode (c : Nat) : List UInt8 :=
  if c < 0x80 then [c.toUInt8]
  else if c < 0x800 then [(0xC0 + (c / 64) % 32).toUInt8, (0x80 + c % 64).toUInt8]
  else if c < 0x10000 then
    [(0xE0 + (c / 4096) % 16).toUInt8, (0x80 + (c / 64) % 64).toUInt8, (0x80 + c % 64).toUInt8]
  else
    [(0xF0 + (c / 262144) % 8).toUInt8, (0x80 + (c / 4096) % 64).toUInt8, (0x80 + (c / 64) % 64).toUInt8,
     (0x80 + c % 64).toUInt8]

/-- Text with ASCII letters in upper case. -/
def upperBytes (bs : List UInt8) : List UInt8 := bs.map upperByte

/-- Text with ASCII letters in lower case. -/
def lowerBytes (bs : List UInt8) : List UInt8 := bs.map lowerByte

/-- The digits of a byte in upper-case hexadecimal. -/
def hexByte (b : UInt8) : List Char :=
  let digit := fun (n : Nat) => if n < 10 then Char.ofNat (48 + n) else Char.ofNat (55 + n)
  [digit (b.toNat / 16), digit (b.toNat % 16)]

/-- Bytes in upper-case hexadecimal. -/
def hexText (bs : List UInt8) : String := String.ofList (bs.flatMap hexByte)

/-- How a pattern matches: `%`/`*` for any run, `_`/`?` for any one
character (zero when switched off by an escape equal to it), sets or an
escape character (zero for none), and whether ASCII case is ignored. -/
structure PatternRules where
  any : Nat
  one : Nat
  /-- The character that opens a set (`[`), or the escape character. -/
  special : Nat
  /-- Whether `special` opens a set rather than escaping. -/
  sets : Bool
  noCase : Bool
  deriving Inhabited

/-- The outcome of matching a pattern: a match; no match here; or no match
anywhere further on, which ends the search of an enclosing wildcard. -/
inductive MatchOutcome where
  | matched | noMatch | noWildcardMatch
  deriving DecidableEq, Inhabited

/-- Reads the next character code of a C string, 0 at its end. -/
def readCode (bs : List UInt8) : Nat × List UInt8 :=
  match bs with
  | [] => (0, [])
  | 0 :: _ => (0, bs)
  | _ => let (c, rest) := splitChar bs; (charCode c, rest)

/-- ASCII lower case of a code. -/
def lowerCode (c : Nat) : Nat := if 65 ≤ c && c ≤ 90 then c + 32 else c

/-- Whether a character is in a set `[…]` whose text after `[` (and `^`)
is given: returns whether it was seen and the pattern after `]`, none when
the set is not closed. -/
def inSet (c : Nat) (pat : List UInt8) : Option (Bool × List UInt8) :=
  let (c2, rest) := readCode pat
  let (seen, c2, rest) := if c2 == 93 then
      let (c3, r3) := readCode rest
      (c == 93, c3, r3)
    else (false, c2, rest)
  let rec go : Nat → Nat → Nat → Bool → List UInt8 → Option (Bool × List UInt8)
    | 0, _, _, _, _ => none
    | fuel + 1, c2, prior, seen, rest =>
      if c2 == 0 then none
      else if c2 == 93 then some (seen, rest)
      else if c2 == 45 && rest.head? != some 93 && rest.head? != some 0 && !rest.isEmpty && prior > 0 then
        let (hi, r) := readCode rest
        let seen := seen || (c ≥ prior && c ≤ hi)
        let (n, r) := readCode r
        go fuel n 0 seen r
      else
        let (n, r) := readCode rest
        go fuel n c2 (seen || c == c2) r
  go (pat.length + 1) c2 0 seen rest

mutual

/-- Matches a pattern against a text, both C strings. -/
def patternMatch (rules : PatternRules) : Nat → List UInt8 → List UInt8 → MatchOutcome
  | 0, _, _ => .noMatch
  | fuel + 1, pat, str =>
    let (c, pat') := readCode pat
    if c == 0 then
      if (str.head?.getD 0) == 0 then .matched else .noMatch
    else if c == rules.any then
      afterAny rules fuel pat' str
    else if c == rules.special && c != 0 then
      if !rules.sets then
        let (e, pat'') := readCode pat'
        if e == 0 then .noMatch
        else
          let (c2, str') := readCode str
          if e == c2 then patternMatch rules fuel pat'' str' else .noMatch
      else
        let (sc, str') := readCode str
        if sc == 0 then .noMatch
        else
          let (invert, body) := match readCode pat' with
            | (94, r) => (true, r)
            | _ => (false, pat')
          match inSet sc body with
          | none => .noMatch
          | some (seen, rest) => if seen != invert then patternMatch rules fuel rest str' else .noMatch
    else
      let (c2, str') := readCode str
      if c == c2 then patternMatch rules fuel pat' str'
      else if rules.noCase && lowerCode c == lowerCode c2 && c < 0x80 && c2 < 0x80 then
        patternMatch rules fuel pat' str'
      else if c == rules.one && rules.one != 0 && c2 != 0 then patternMatch rules fuel pat' str'
      else .noMatch

/-- Matches after a `%` or `*`: skips further wildcards (each `_` or `?`
taking a character), then tries every place in the text where the rest can start. -/
def afterAny (rules : PatternRules) : Nat → List UInt8 → List UInt8 → MatchOutcome
  | 0, _, _ => .noMatch
  | fuel + 1, pat, str =>
    let (c, pat') := readCode pat
    if c == rules.any then afterAny rules fuel pat' str
    else if c == rules.one && rules.one != 0 then
      let (s, str') := readCode str
      if s == 0 then .noWildcardMatch else afterAny rules fuel pat' str'
    else if c == 0 then .matched
    else if c == rules.special && rules.sets then
      tryEach rules fuel pat str
    else
      let (c, pat') := if c == rules.special && c != 0 then readCode pat' else (c, pat')
      if c == 0 then .noWildcardMatch
      else searchFor rules fuel c pat' str

/-- Tries a pattern starting with a set at every place of the text. -/
def tryEach (rules : PatternRules) : Nat → List UInt8 → List UInt8 → MatchOutcome
  | 0, _, _ => .noWildcardMatch
  | fuel + 1, pat, str =>
    if (str.head?.getD 0) == 0 then .noWildcardMatch
    else
      match patternMatch rules fuel pat str with
      | .noMatch => tryEach rules fuel pat (splitChar str).2
      | r => r

/-- Finds each place the character `c` (either case when case is ignored)
stands in the text and matches the rest of the pattern after it. -/
def searchFor (rules : PatternRules) : Nat → Nat → List UInt8 → List UInt8 → MatchOutcome
  | 0, _, _, _ => .noWildcardMatch
  | fuel + 1, c, pat, str =>
    let (s, str') := readCode str
    if s == 0 then .noWildcardMatch
    else if s == c || (rules.noCase && c < 0x80 && s < 0x80 && lowerCode s == lowerCode c) then
      match patternMatch rules fuel pat str' with
      | .noMatch => searchFor rules fuel c pat str'
      | r => r
    else searchFor rules fuel c pat str'

end

/-- The rules of `LIKE`, with an escape character (zero for none). -/
def likeRules (escape : Nat) : PatternRules :=
  { any := if escape == 37 then 0 else 37, one := if escape == 95 then 0 else 95, special := escape,
    sets := false, noCase := true }

/-- The rules of `GLOB`. -/
def globRules : PatternRules := { any := 42, one := 63, special := 91, sets := true, noCase := false }

/-- Whether a text matches a pattern under rules. -/
def matchesPattern (rules : PatternRules) (pattern text : List UInt8) : Bool :=
  let p := cString pattern ++ [0]
  let t := cString text ++ [0]
  patternMatch rules ((p.length + 2) * (t.length + 2) * 2) p t == .matched

end SqlMapper.Database
