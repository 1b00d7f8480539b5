import SqlMapper.Database.Datum
import SqlMapper.Fault

/-!
# Tokens of statement text

Statement text splits into words, quoted names, string and blob literals,
integer and real numerals, parameter variables and operator symbols; blanks
and comments (`--` to the end of the line, `/* … */` to its end or to the end
of the text) separate them. A name is quoted with double quotes, backquotes or
square brackets, a string with single quotes; a doubled quote stands for
itself. Each token keeps where it starts and ends in the text, so that a
result column can be named by the text it was written as.

Text that no token reads — an unclosed quote or bracket, a numeral run into
a name, a character no token starts with, a variable with no name — is an
illegal token. The reader of statements reports it only when it gets there,
as `unrecognized token: "…"`.
-/

namespace SqlMapper.Database

/-- A token of statement text. -/
inductive Token where
  /-- A bare word: a keyword or a name. -/
  | word (text : String)
  /-- A quoted name, by its quote character. -/
  | quoted (text : String) (quote : Char)
  | string (text : String)
  | integer (text : String)
  | real (text : String)
  | blob (bytes : List UInt8)
  /-- A parameter variable as written: `?`, `?NNN`, `:name`, `@name`, `$name`, `#name`. -/
  | variable (text : String)
  | symbol (text : String)
  /-- Text that is no token. -/
  | illegal (text : String)
  deriving Inhabited, BEq

/-- A token with where it starts and ends in the text. -/
structure Lexeme where
  token : Token
  start : Nat
  stop : Nat
  deriving Inhabited

/-- The uppercase of a word, ASCII letters only. -/
def upperWord (s : String) : String := String.ofList (s.toList.map Char.toUpper)

/-- The fault of text the database cannot run, with its message. -/
def operational (message : String) : Fault := .database "OperationalError" message

/-- A constraint the database refused to break, with its message. -/
def integrity (message : String) : Fault := .database "IntegrityError" message

/-- A value too large for the database, with its message. -/
def dataError (message : String) : Fault := .database "DataError" message

/-- The keywords of the statement language. -/
def keywords : List String :=
  ["ABORT", "ACTION", "ADD", "AFTER", "ALL", "ALTER", "ALWAYS", "ANALYZE", "AND", "AS", "ASC", "ATTACH",
   "AUTOINCREMENT", "BEFORE", "BEGIN", "BETWEEN", "BY", "CASCADE", "CASE", "CAST", "CHECK", "COLLATE", "COLUMN",
   "COMMIT", "CONFLICT", "CONSTRAINT", "CREATE", "CROSS", "CURRENT", "CURRENT_DATE", "CURRENT_TIME",
   "CURRENT_TIMESTAMP", "DATABASE", "DEFAULT", "DEFERRABLE", "DEFERRED", "DELETE", "DESC", "DETACH", "DISTINCT",
   "DO", "DROP", "EACH", "ELSE", "END", "ESCAPE", "EXCEPT", "EXCLUDE", "EXCLUSIVE", "EXISTS", "EXPLAIN", "FAIL",
   "FILTER", "FIRST", "FOLLOWING", "FOR", "FOREIGN", "FROM", "FULL", "GENERATED", "GLOB", "GROUP", "GROUPS",
   "HAVING", "IF", "IGNORE", "IMMEDIATE", "IN", "INDEX", "INDEXED", "INITIALLY", "INNER", "INSERT", "INSTEAD",
   "INTERSECT", "INTO", "IS", "ISNULL", "JOIN", "KEY", "LAST", "LEFT", "LIKE", "LIMIT", "MATCH", "MATERIALIZED",
   "NATURAL", "NO", "NOT", "NOTHING", "NOTNULL", "NULL", "NULLS", "OF", "OFFSET", "ON", "OR", "ORDER", "OTHERS",
   "OUTER", "OVER", "PARTITION", "PLAN", "PRAGMA", "PRECEDING", "PRIMARY", "QUERY", "RAISE", "RANGE", "RECURSIVE",
   "REFERENCES", "REGEXP", "REINDEX", "RELEASE", "RENAME", "REPLACE", "RESTRICT", "RETURNING", "RIGHT",
   "ROLLBACK", "ROW", "ROWS", "SAVEPOINT", "SELECT", "SET", "TABLE", "TEMP", "TEMPORARY", "THEN", "TIES", "TO",
   "TRANSACTION", "TRIGGER", "UNBOUNDED", "UNION", "UNIQUE", "UPDATE", "USING", "VACUUM", "VALUES", "VIEW",
   "VIRTUAL", "WHEN", "WHERE", "WINDOW", "WITH", "WITHOUT"]

/-- Keywords that are never names, the join words apart. -/
def reservedWords : List String :=
  ["ADD", "ALL", "ALTER", "AND", "AS", "AUTOINCREMENT", "BETWEEN", "CASE", "CHECK", "COLLATE", "COMMIT",
   "CONSTRAINT", "CREATE", "DEFAULT", "DEFERRABLE", "DELETE", "DISTINCT", "DROP", "ELSE", "ESCAPE", "EXCEPT",
   "EXISTS", "FOREIGN", "FROM", "GROUP", "HAVING", "IN", "INDEX", "INSERT", "INTERSECT", "INTO", "IS", "ISNULL",
   "JOIN", "LIMIT", "NOT", "NOTHING", "NOTNULL", "NULL", "ON", "OR", "ORDER", "PRIMARY", "REFERENCES",
   "RETURNING", "SELECT", "SET", "TABLE", "THEN", "TO", "TRANSACTION", "UNION", "UNIQUE", "UPDATE", "USING",
   "VALUES", "WHEN", "WHERE"]

/-- The words of joins, which name columns and tables but are no aliases. -/
def joinWords : List String := ["CROSS", "FULL", "INNER", "LEFT", "NATURAL", "OUTER", "RIGHT"]

/-- Whether a word can be a keyword: it is made of ASCII letters and underscores only. -/
def keywordShaped (w : String) : Bool := w.toList.all fun c => c.isAlpha || c == '_'

/-- Whether a bare word is the keyword `kw`, case ignored. -/
def isKeywordWord (w kw : String) : Bool := keywordShaped w && upperWord w == kw

/-- Whether a token is the keyword `kw`, case ignored. -/
def Token.isKeyword (t : Token) (kw : String) : Bool :=
  match t with
  | .word w => isKeywordWord w kw
  | _ => false

/-- Whether a bare word is a keyword that is never a name. -/
def isReservedWord (w : String) : Bool := keywordShaped w && reservedWords.contains (upperWord w)

/-- Whether a bare word is one of the join words. -/
def isJoinWord (w : String) : Bool := keywordShaped w && joinWords.contains (upperWord w)

/-- Whether a bare word is a keyword at all. -/
def isKeyword (w : String) : Bool := keywordShaped w && keywords.contains (upperWord w)

/-- Characters a name is made of: letters, digits, `_`, `$` and any character beyond ASCII. -/
def isIdChar (c : Char) : Bool := c.isAlphanum || c == '_' || c == '$' || c.toNat ≥ 128

/-- Characters between tokens. -/
def isSpace (c : Char) : Bool := c == ' ' || c == '\t' || c == '\n' || c == '\r' || c == '\x0c'

/-- The identifier a token is: a bare word that is no reserved keyword nor
join word, or a quoted name. -/
def Token.identifier? : Token → Option String
  | .word w => if isReservedWord w || isJoinWord w then none else some w
  | .quoted q _ => some q
  | _ => none

/-- The name a token is: an identifier, a string, or a join word. -/
def Token.name? : Token → Option String
  | .word w => if isReservedWord w then none else some w
  | .quoted q _ => some q
  | .string s => some s
  | _ => none

/-- Whether the token is a name of any kind. -/
def Token.isName (t : Token) : Bool := t.name?.isSome

/-- Whether a character is a hexadecimal digit. -/
def isHexDigit (c : Char) : Bool := c.isDigit || ('a' ≤ c && c ≤ 'f') || ('A' ≤ c && c ≤ 'F')

/-- The value of a hexadecimal digit. -/
def hexValue (c : Char) : Nat :=
  if c.isDigit then c.toNat - '0'.toNat
  else if 'a' ≤ c && c ≤ 'f' then c.toNat - 'a'.toNat + 10
  else c.toNat - 'A'.toNat + 10

/-- Bytes from pairs of hexadecimal digits. -/
def hexBytes : List Char → List UInt8
  | a :: b :: rest => (hexValue a * 16 + hexValue b).toUInt8 :: hexBytes rest
  | _ => []

/-- The text up to a closing quote, a doubled quote standing for one, and the
text after the closing quote; none when the quote is not closed. -/
def quotedRun (q : Char) : List Char → Option (List Char × List Char)
  | [] => none
  | c :: rest =>
    if c == q then
      match rest with
      | d :: more => if d == q then (quotedRun q more).map fun (s, r) => (q :: s, r) else some ([], rest)
      | [] => some ([], [])
    else (quotedRun q rest).map fun (s, r) => (c :: s, r)

/-- The characters of a numeral at the start of text, and whether it is real:
a hexadecimal integer, or digits with an optional fraction and an exponent
that has digits. -/
def numeralRun (cs : List Char) : List Char × Bool :=
  match cs with
  | '0' :: x :: h :: rest =>
    if (x == 'x' || x == 'X') && isHexDigit h then ('0' :: x :: h :: rest.takeWhile isHexDigit, false)
    else decimalRun cs
  | _ => decimalRun cs
where
  decimalRun (cs : List Char) : List Char × Bool :=
    let whole := cs.takeWhile Char.isDigit
    let afterWhole := cs.drop whole.length
    let frac := match afterWhole with
      | '.' :: r => '.' :: r.takeWhile Char.isDigit
      | _ => []
    let afterFrac := afterWhole.drop frac.length
    let exp := match afterFrac with
      | e :: s :: d :: _ =>
        if (e == 'e' || e == 'E') && (s == '+' || s == '-') && d.isDigit then
          e :: s :: (afterFrac.drop 2).takeWhile Char.isDigit
        else if (e == 'e' || e == 'E') && s.isDigit then e :: (afterFrac.drop 1).takeWhile Char.isDigit
        else []
      | [e, d] => if (e == 'e' || e == 'E') && d.isDigit then [e, d] else []
      | _ => []
    (whole ++ frac ++ exp, !frac.isEmpty || !exp.isEmpty)

/-- The operator symbols, longest first. -/
def symbols : List String :=
  ["->>", "||", "<=", ">=", "==", "!=", "<>", "<<", ">>", "->",
   "(", ")", ";", ",", ".", "+", "-", "*", "/", "%", "=", "<", ">", "&", "|", "~"]

/-- The length of a variable's name after its sigil, and whether the
variable is well formed: it needs a character of a name, and a name may end
in an argument list in parentheses; `::` may stand inside it. `count` is the
number of name characters so far, `len` the length so far. -/
def variableRun : List Char → Nat → Nat → Nat × Bool
  | ':' :: ':' :: rest, len, count => variableRun rest (len + 2) count
  | c :: rest, len, count =>
    if isIdChar c then variableRun rest (len + 1) (count + 1)
    else if c == '(' && count > 0 then
      let body := rest.takeWhile fun d => !isSpace d && d != ')'
      match rest.drop body.length with
      | ')' :: _ => (len + 2 + body.length, true)
      | _ => (len + 1 + body.length, false)
    else (len, count > 0)
  | [], len, count => (len, count > 0)

/-- The first token of text at offset `pos`: the token and the text after it;
none at the end of the text. Blanks and comments before it are skipped. -/
def nextToken : Nat → List Char → Nat → Option (Lexeme × List Char)
  | 0, _, _ => none
  | fuel + 1, cs, pos =>
    match cs with
    | [] => none
    | c :: rest =>
      let lex := fun (t : Token) (n : Nat) => some (⟨t, pos, pos + n⟩, cs.drop n)
      if isSpace c then
        let n := cs.takeWhile isSpace |>.length
        nextToken fuel (cs.drop n) (pos + n)
      else if c == '-' && rest.head? == some '-' then
        let n := (cs.takeWhile (· != '\n')).length
        nextToken fuel (cs.drop n) (pos + n)
      else if c == '/' && rest.head? == some '*' && rest.length ≥ 2 then
        let n := 2 + commentLength (rest.drop 1)
        nextToken fuel (cs.drop n) (pos + n)
      else if c == '\'' then
        match quotedRun '\'' rest with
        | some (s, after) => lex (.string (String.ofList s)) (cs.length - after.length)
        | none => lex (.illegal (String.ofList cs)) cs.length
      else if c == '"' || c == '`' then
        match quotedRun c rest with
        | some (s, after) => lex (.quoted (String.ofList s) c) (cs.length - after.length)
        | none => lex (.illegal (String.ofList cs)) cs.length
      else if c == '[' then
        match rest.findIdx? (· == ']') with
        | some i => lex (.quoted (String.ofList (rest.take i)) '[') (i + 2)
        | none => lex (.illegal (String.ofList cs)) cs.length
      else if (c == 'x' || c == 'X') && rest.head? == some '\'' then
        let digits := (rest.drop 1).takeWhile isHexDigit
        match rest.drop (1 + digits.length) with
        | '\'' :: _ =>
          if digits.length % 2 == 0 then lex (.blob (hexBytes digits)) (3 + digits.length)
          else lex (.illegal (String.ofList (cs.take (3 + digits.length)))) (3 + digits.length)
        | _ =>
          let body := (rest.drop 1).takeWhile (· != '\'')
          let n := 2 + body.length + (if (rest.drop (1 + body.length)).isEmpty then 0 else 1)
          lex (.illegal (String.ofList (cs.take n))) n
      else if c.isDigit || (c == '.' && (rest.head?.map Char.isDigit).getD false) then
        let (run, isReal) := numeralRun cs
        let after := cs.drop run.length
        let isHex := run.length > 2 && (run.take 2 == ['0', 'x'] || run.take 2 == ['0', 'X'])
        let tail := if isHex then [] else after.takeWhile isIdChar
        if !tail.isEmpty then lex (.illegal (String.ofList (run ++ tail))) (run.length + tail.length)
        else lex (if isReal then .real (String.ofList run) else .integer (String.ofList run)) run.length
      else if c == '?' then
        let ds := rest.takeWhile Char.isDigit
        lex (.variable (String.ofList (c :: ds))) (1 + ds.length)
      else if c == ':' || c == '@' || c == '$' || c == '#' then
        let (n, ok) := variableRun rest 0 0
        let text := String.ofList (cs.take (n + 1))
        lex (if ok then .variable text else .illegal text) (n + 1)
      else if isIdChar c then
        let w := cs.takeWhile isIdChar
        lex (.word (String.ofList w)) w.length
      else
        match symbols.find? (fun s => s.toList.isPrefixOf cs) with
        | some s => lex (.symbol s) s.length
        | none => lex (.illegal (String.singleton c)) 1
where
  /-- The length of a block comment's body with its end mark, to the end of the text if unclosed. -/
  commentLength : List Char → Nat
    | [] => 0
    | '*' :: '/' :: _ => 2
    | _ :: rest => commentLength rest + 1

/-- The tokens of statement text, comments left out. -/
def tokenize (text : String) : List Lexeme :=
  go (text.length + 1) text.toList 0
where
  go : Nat → List Char → Nat → List Lexeme
    | 0, _, _ => []
    | fuel + 1, cs, pos =>
      match nextToken (cs.length + 1) cs pos with
      | none => []
      | some (l, rest) => l :: go fuel rest l.stop

/-- The text a token was written as. -/
def Lexeme.text (source : List Char) (l : Lexeme) : String :=
  String.ofList ((source.drop l.start).take (l.stop - l.start))

end SqlMapper.Database
