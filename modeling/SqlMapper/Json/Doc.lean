import SqlMapper.Text.Surrogate

/-!
# JSON documents

Requests and answers travel as JSON documents, one per line. A document keeps
what the service needs from the text: integers exactly, and a number written
with a fraction or an exponent as its text, so that it can be read as a binary
float later; `NaN`, `Infinity` and `-Infinity` are read as such numbers too.
Objects keep their members in the order written.

Reading is a recursive descent over the characters. Every step of it consumes
at least one character, so the length of the text serves as fuel.
-/

namespace SqlMapper.Json

/-- A JSON document. -/
inductive Doc where
  | null
  | bool (b : Bool)
  | int (n : Int)
  /-- A number with a fraction or an exponent, kept as written. -/
  | num (text : String)
  | str (s : String)
  | arr (items : List Doc)
  | obj (members : List (String × Doc))
  deriving Inhabited

namespace Doc

/-- The member `key` of an object, if any. -/
def get? (d : Doc) (key : String) : Option Doc :=
  match d with
  | .obj ms => ms.lookup key
  | _ => none

/-- The name of the class a document reads as when read plainly. -/
def typeName : Doc → String
  | .null => "NoneType"
  | .bool _ => "bool"
  | .int _ => "int"
  | .num _ => "float"
  | .str _ => "str"
  | .arr _ => "list"
  | .obj _ => "dict"

/-- The first member key of an object. -/
def firstKey? : Doc → Option String
  | .obj ((k, _) :: _) => some k
  | _ => none

end Doc

/-- JSON white space. -/
def isJsonBlank (c : Char) : Bool := c == ' ' || c == '\n' || c == '\r' || c == '\t'

/-- Value of one hexadecimal digit. -/
def hexDigit? (c : Char) : Option Nat :=
  if '0' ≤ c && c ≤ '9' then some (c.toNat - '0'.toNat)
  else if 'a' ≤ c && c ≤ 'f' then some (c.toNat - 'a'.toNat + 10)
  else if 'A' ≤ c && c ≤ 'F' then some (c.toNat - 'A'.toNat + 10)
  else none

/-- The number that four hexadecimal digits write. -/
def hex4? (a b c d : Char) : Option Nat := do
  let x ← hexDigit? a
  let y ← hexDigit? b
  let z ← hexDigit? c
  let w ← hexDigit? d
  pure (((x * 16 + y) * 16 + z) * 16 + w)

/-- The character of a one-letter escape. -/
def simpleEscape? : Char → Option Char
  | '"' => some '"'
  | '\\' => some '\\'
  | '/' => some '/'
  | 'b' => some '\x08'
  | 'f' => some '\x0c'
  | 'n' => some '\n'
  | 'r' => some '\r'
  | 't' => some '\t'
  | _ => none

/-- The character of a `\u` escape: a surrogate code point stands alone. -/
def escapedChar (code : Nat) : Char :=
  if 0xD800 ≤ code && code < 0xE000 then Text.ofSurrogate code else Char.ofNat code

/-- Reads the body of a string after its opening quote; `acc` holds the characters
read so far, nearest first. A high surrogate escape followed by a low one is
the character of the pair; a surrogate escape alone is a lone surrogate. -/
def readStringBody (acc : List Char) : List Char → Option (String × List Char)
  | [] => none
  | '"' :: rest => some (String.ofList acc.reverse, rest)
  | '\\' :: 'u' :: a :: b :: c :: d :: '\\' :: 'u' :: e :: f :: g :: h :: more =>
    match hex4? a b c d, hex4? e f g h with
    | some hi, some lo =>
      if 0xD800 ≤ hi && hi < 0xDC00 && 0xDC00 ≤ lo && lo < 0xE000 then
        readStringBody (Char.ofNat (0x10000 + (hi - 0xD800) * 0x400 + (lo - 0xDC00)) :: acc) more
      else readStringBody (escapedChar hi :: acc) ('\\' :: 'u' :: e :: f :: g :: h :: more)
    | some hi, none =>
      if 0xD800 ≤ hi && hi < 0xDC00 then none
      else readStringBody (escapedChar hi :: acc) ('\\' :: 'u' :: e :: f :: g :: h :: more)
    | none, _ => none
  | '\\' :: 'u' :: a :: b :: c :: d :: rest =>
    match hex4? a b c d with
    | none => none
    | some code => readStringBody (escapedChar code :: acc) rest
  | '\\' :: c :: rest =>
    match simpleEscape? c with
    | some ch => readStringBody (ch :: acc) rest
    | none => none
  | c :: rest => if c.toNat < 0x20 then none else readStringBody (c :: acc) rest
termination_by cs => cs.length

/-- The number that a run of decimal digits writes. -/
def digitsValue (ds : List Char) : Nat := ds.foldl (fun n c => n * 10 + (c.toNat - '0'.toNat)) 0

/-- Splits off the leading decimal digits. -/
def spanDigits (cs : List Char) : List Char × List Char := (cs.takeWhile Char.isDigit, cs.dropWhile Char.isDigit)

/-- Reads a number: an integer, or the text of one with a fraction or an exponent. -/
def readNumber (cs : List Char) : Option (Doc × List Char) :=
  let (sign, afterSign) := match cs with
    | '-' :: rest => (['-'], rest)
    | _ => ([], cs)
  let (whole, afterWhole) := spanDigits afterSign
  if whole.isEmpty || (whole.length > 1 && whole.head? == some '0') then none else
  let (frac, afterFrac) := match afterWhole with
    | '.' :: rest =>
      let (ds, r) := spanDigits rest
      ('.' :: ds, r)
    | _ => ([], afterWhole)
  if frac == ['.'] then none else
  let (expo, afterExpo) := match afterFrac with
    | e :: rest =>
      if e == 'e' || e == 'E' then
        let (sgn, r) := match rest with
          | '+' :: r => (['+'], r)
          | '-' :: r => (['-'], r)
          | _ => ([], rest)
        let (ds, r') := spanDigits r
        (e :: sgn ++ ds, r')
      else ([], afterFrac)
    | [] => ([], afterFrac)
  if !expo.isEmpty && !(expo.getLast?.map Char.isDigit).getD false then none else
  if frac.isEmpty && expo.isEmpty then
    some (.int (if sign.isEmpty then digitsValue whole else -(digitsValue whole : Int)), afterExpo)
  else some (.num (String.ofList (sign ++ whole ++ frac ++ expo)), afterExpo)

mutual

/-- Reads one document after blanks, with `fuel` steps. -/
def readDoc : Nat → List Char → Option (Doc × List Char)
  | 0, _ => none
  | fuel + 1, cs =>
    match cs.dropWhile isJsonBlank with
    | 'n' :: 'u' :: 'l' :: 'l' :: rest => some (.null, rest)
    | 't' :: 'r' :: 'u' :: 'e' :: rest => some (.bool true, rest)
    | 'f' :: 'a' :: 'l' :: 's' :: 'e' :: rest => some (.bool false, rest)
    | 'N' :: 'a' :: 'N' :: rest => some (.num "NaN", rest)
    | 'I' :: 'n' :: 'f' :: 'i' :: 'n' :: 'i' :: 't' :: 'y' :: rest => some (.num "Infinity", rest)
    | '-' :: 'I' :: 'n' :: 'f' :: 'i' :: 'n' :: 'i' :: 't' :: 'y' :: rest => some (.num "-Infinity", rest)
    | '"' :: rest => (readStringBody [] rest).map fun r => (.str r.1, r.2)
    | '[' :: rest =>
      match rest.dropWhile isJsonBlank with
      | ']' :: after => some (.arr [], after)
      | _ => readItems fuel [] rest
    | '{' :: rest =>
      match rest.dropWhile isJsonBlank with
      | '}' :: after => some (.obj [], after)
      | _ => readMembers fuel [] rest
    | other => readNumber other

/-- Reads the items of an array after `[` or a comma; `acc` holds those read, nearest first. -/
def readItems : Nat → List Doc → List Char → Option (Doc × List Char)
  | 0, _, _ => none
  | fuel + 1, acc, cs =>
    match readDoc fuel cs with
    | none => none
    | some (d, rest) =>
      match rest.dropWhile isJsonBlank with
      | ',' :: more => readItems fuel (d :: acc) more
      | ']' :: more => some (.arr (d :: acc).reverse, more)
      | _ => none

/-- Reads the members of an object after `{` or a comma; `acc` holds those read, nearest first. -/
def readMembers : Nat → List (String × Doc) → List Char → Option (Doc × List Char)
  | 0, _, _ => none
  | fuel + 1, acc, cs =>
    match cs.dropWhile isJsonBlank with
    | '"' :: rest =>
      match readStringBody [] rest with
      | none => none
      | some (key, afterKey) =>
        match afterKey.dropWhile isJsonBlank with
        | ':' :: afterColon =>
          match readDoc fuel afterColon with
          | none => none
          | some (d, rest') =>
            match rest'.dropWhile isJsonBlank with
            | ',' :: more => readMembers fuel ((key, d) :: acc) more
            | '}' :: more => some (.obj ((key, d) :: acc).reverse, more)
            | _ => none
        | _ => none
    | _ => none

end

/-- Reads a whole text as one document, blanks around it allowed. -/
def Doc.read? (text : String) : Option Doc :=
  let cs := text.toList
  match readDoc (cs.length + 1) cs with
  | some (d, rest) => if (rest.dropWhile isJsonBlank).isEmpty then some d else none
  | none => none

/-- The JSON escape of one character inside a string. -/
def escapeJsonChar (c : Char) : String :=
  match c with
  | '"' => "\\\""
  | '\\' => "\\\\"
  | '\n' => "\\n"
  | '\r' => "\\r"
  | '\t' => "\\t"
  | _ =>
    let escape := fun (n : Nat) =>
      let h := Nat.toDigits 16 n
      "\\u" ++ String.ofList (List.replicate (4 - h.length) '0' ++ h)
    if c.toNat < 0x20 then escape c.toNat
    else match Text.surrogate? c with
      | some n => escape n
      | none => c.toString

/-- A string as a JSON string literal. -/
def quoteJson (s : String) : String := "\"" ++ String.join (s.toList.map escapeJsonChar) ++ "\""

mutual

/-- Compact JSON text of a document. -/
def Doc.render : Doc → String
  | .null => "null"
  | .bool b => if b then "true" else "false"
  | .int n => toString n
  | .num t => t
  | .str s => quoteJson s
  | .arr items => "[" ++ renderItems items ++ "]"
  | .obj members => "\x7b" ++ renderMembers members ++ "\x7d"

/-- Comma-separated texts of array items. -/
def renderItems : List Doc → String
  | [] => ""
  | [d] => d.render
  | d :: rest => d.render ++ "," ++ renderItems rest

/-- Comma-separated texts of object members. -/
def renderMembers : List (String × Doc) → String
  | [] => ""
  | [(k, d)] => quoteJson k ++ ":" ++ d.render
  | (k, d) :: rest => quoteJson k ++ ":" ++ d.render ++ "," ++ renderMembers rest

end

mutual

/-- Nesting depth of a document: one for a scalar, one more than its deepest part otherwise. -/
def Doc.depth : Doc → Nat
  | .arr items => depthItems items + 1
  | .obj members => depthMembers members + 1
  | _ => 1

/-- Greatest depth of array items. -/
def depthItems : List Doc → Nat
  | [] => 0
  | d :: rest => max d.depth (depthItems rest)

/-- Greatest depth of object members. -/
def depthMembers : List (String × Doc) → Nat
  | [] => 0
  | (_, d) :: rest => max d.depth (depthMembers rest)

end

/-- The string of a string document. -/
def Doc.str? : Doc → Option String
  | .str s => some s
  | _ => none

/-- The items of an array document. -/
def Doc.arr? : Doc → Option (List Doc)
  | .arr items => some items
  | _ => none

/-- The members of an object document. -/
def Doc.obj? : Doc → Option (List (String × Doc))
  | .obj members => some members
  | _ => none

end SqlMapper.Json
