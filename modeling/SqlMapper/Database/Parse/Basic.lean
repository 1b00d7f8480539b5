import SqlMapper.Database.Syntax
import SqlMapper.Database.Token

/-!
# Reading statements: the reader's state and its small steps

A reader walks the tokens of a text. It knows the text itself, so that a
part can be named by the text it was written as, and it numbers parameter
slots as they come: `?` takes the number after the highest so far, `?NNN`
its own number (from 1 to 32766), and a named slot the number of its first
use.

Text the reader cannot read fails the way the database reports it: `near
"…": syntax error` at the first token that does not fit, `incomplete input`
when the text ends too soon, and `unrecognized token: "…"` when the reader
comes to text that is no token.

Names come in three kinds. An *identifier* is a bare word that is not a
reserved keyword, or a quoted name. A *name* is also a string literal or a
join word (`LEFT`, `NATURAL`, …), which is how tables and columns may be
written in definitions. An *alias* written without `AS` is an identifier or
a string.
-/

namespace SqlMapper.Database

/-- What a reader sees: the tokens left, the text they come from, and the
parameter slots numbered so far. -/
structure ParseState where
  rest : List Lexeme
  source : List Char
  /-- The highest parameter number so far. -/
  slots : Nat := 0
  /-- Named slots with their numbers. -/
  named : List (String × Nat) := []
  /-- Where the last token read ends. -/
  lastStop : Nat := 0

/-- A reader of statement parts. -/
abbrev ParseM := StateT ParseState (Except Fault)

namespace Parse

/-- The fault of text that is no token. -/
def unrecognized (text : String) : Fault := operational ("unrecognized token: \"" ++ text ++ "\"")

/-- The next token, none at the end of the text; text that is no token fails here. -/
def peek : ParseM (Option Token) := do
  match (← get).rest with
  | [] => pure none
  | l :: _ =>
    match l.token with
    | .illegal t => throw (unrecognized t)
    | t => pure (some t)

/-- The token after the next, if any, without judging it. -/
def peekSecond : ParseM (Option Token) := do
  return ((← get).rest.drop 1).head?.map (·.token)

/-- The token two after the next, if any, without judging it. -/
def peekThird : ParseM (Option Token) := do
  return ((← get).rest.drop 2).head?.map (·.token)

/-- Moves past the next token. -/
def advance : ParseM Unit :=
  modify fun s => match s.rest with
    | l :: rest => { s with rest := rest, lastStop := l.stop }
    | [] => s

/-- Where the next token starts, or the end of the text. -/
def position : ParseM Nat := do
  let s ← get
  return (s.rest.head?.map (·.start)).getD s.source.length

/-- Where the last token read ends. -/
def lastStop : ParseM Nat := do return (← get).lastStop

/-- The text between two places. -/
def textBetween (start stop : Nat) : ParseM String := do
  return String.ofList (((← get).source.drop start).take (stop - start))

/-- Characters the database trims from the ends of a span of text. -/
def isTrimmed (c : Char) : Bool := isSpace c || c == '\x0b'

/-- Text with blanks trimmed from both ends. -/
def trimSpan (s : String) : String :=
  String.ofList ((s.toList.dropWhile isTrimmed).reverse.dropWhile isTrimmed).reverse

/-- The fault at the next token. -/
def syntaxError {α : Type} : ParseM α := do
  let s ← get
  match s.rest with
  | l :: _ => throw (operational ("near \"" ++ l.text s.source ++ "\": syntax error"))
  | [] => throw (operational "incomplete input")

/-- Whether the next token is the keyword `kw`. -/
def atKeyword (kw : String) : ParseM Bool := do
  return ((← peek).map (·.isKeyword kw)).getD false

/-- Whether the next token is the symbol `sym`. -/
def atSymbol (sym : String) : ParseM Bool := do
  return (← peek) == some (.symbol sym)

/-- Whether the token after the next is the keyword `kw`. -/
def secondIsKeyword (kw : String) : ParseM Bool := do
  return ((← peekSecond).map (·.isKeyword kw)).getD false

/-- Whether the token after the next is the symbol `sym`. -/
def secondIsSymbol (sym : String) : ParseM Bool := do
  return (← peekSecond) == some (.symbol sym)

/-- Reads the keyword `kw` if it comes next. -/
def keyword? (kw : String) : ParseM Bool := do
  if ← atKeyword kw then advance; pure true else pure false

/-- Reads the symbol `sym` if it comes next. -/
def symbol? (sym : String) : ParseM Bool := do
  if ← atSymbol sym then advance; pure true else pure false

/-- Reads the keyword `kw`, which must come next. -/
def expectKeyword (kw : String) : ParseM Unit := do
  if !(← keyword? kw) then syntaxError

/-- Reads the symbol `sym`, which must come next. -/
def expectSymbol (sym : String) : ParseM Unit := do
  if !(← symbol? sym) then syntaxError

/-- Reads keywords in a row, which must all come. -/
def expectKeywords (kws : List String) : ParseM Unit := kws.forM expectKeyword

/-- Reads an identifier if one comes next. -/
def identifier? : ParseM (Option String) := do
  match (← peek).bind Token.identifier? with
  | some n => advance; pure (some n)
  | none => pure none

/-- Reads a name, which must come next. -/
def name : ParseM String := do
  match (← peek).bind Token.name? with
  | some n => advance; pure n
  | none => syntaxError

/-- Reads a name if one comes next. -/
def name? : ParseM (Option String) := do
  match (← peek).bind Token.name? with
  | some n => advance; pure (some n)
  | none => pure none

/-- Reads a name that may be qualified by a schema: the schema and the name. -/
def qualifiedName : ParseM (Option String × String) := do
  let first ← name
  if ← symbol? "." then return (some first, ← name) else pure (none, first)

/-- Reads an alias if one comes: `AS` and a name, or an identifier or string alone. -/
def alias? : ParseM (Option String) := do
  if ← keyword? "AS" then return some (← name)
  match ← peek with
  | some (.string s) => advance; pure (some s)
  | some t =>
    match t.identifier? with
    | some n => advance; pure (some n)
    | none => pure none
  | none => pure none

/-- The text without its quotes, a doubled quote standing for one, when it
starts with a quote; cut at the closing quote. -/
def dequoteText (s : String) : String :=
  match s.toList with
  | q :: rest =>
    if q == '"' || q == '\'' || q == '`' || q == '[' then
      let close := if q == '[' then ']' else q
      String.ofList (go close rest (rest.length + 1))
    else s
  | [] => s
where
  go (close : Char) : List Char → Nat → List Char
    | _, 0 => []
    | c :: d :: rest, fuel + 1 =>
      if c == close then (if d == close then c :: go close rest fuel else [])
      else c :: go close (d :: rest) fuel
    | [c], _ => if c == close then [] else [c]
    | [], _ => []

/-- The greatest parameter number. -/
def maxSlot : Nat := 32766

/-- The number of a parameter written as `text`. -/
def slotNumber (text : String) : ParseM Nat := do
  let s ← get
  match text.toList with
  | ['?'] =>
    let n := s.slots + 1
    set { s with slots := n }
    pure n
  | '?' :: digits =>
    let (value, form) := readInteger (digits.map fun c => c.toNat.toUInt8)
    if form != .exact || value < 1 || value > maxSlot then
      throw (operational ("variable number must be between ?1 and ?" ++ toString maxSlot))
    let n := value.toNat
    if n > s.slots then set { s with slots := n, named := s.named ++ [(text, n)] }
    else if !(s.named.any (·.2 == n)) then set { s with named := s.named ++ [(text, n)] }
    pure n
  | _ =>
    match s.named.lookup text with
    | some n => pure n
    | none =>
      let n := s.slots + 1
      set { s with slots := n, named := s.named ++ [(text, n)] }
      pure n

/-- Reads a type name: identifiers and strings in a row, then optional sizes
in parentheses; gives the text as written from its first token to its last,
empty when there is none. -/
def typeName : ParseM String := do
  let start ← position
  let mut words := 0
  for _ in [0:64] do
    match ← peek with
    | some (.string _) => advance; words := words + 1
    | some t =>
      if t.identifier?.isSome then advance; words := words + 1 else break
    | none => break
  if words == 0 then return ""
  if ← symbol? "(" then
    signedNumber
    if ← symbol? "," then signedNumber
    expectSymbol ")"
  textBetween start (← lastStop)
where
  /-- Reads a number with an optional sign. -/
  signedNumber : ParseM Unit := do
    if !(← symbol? "+") then discard (symbol? "-")
    match ← peek with
    | some (.integer _) | some (.real _) => advance
    | _ => syntaxError

/-- Reads an action taken on a broken constraint: `ROLLBACK`, `ABORT`, `FAIL`, `IGNORE` or `REPLACE`. -/
def onErrorAction : ParseM OnError := do
  if ← keyword? "ROLLBACK" then pure .rollback
  else if ← keyword? "ABORT" then pure .abort
  else if ← keyword? "FAIL" then pure .fail
  else if ← keyword? "IGNORE" then pure .ignore
  else if ← keyword? "REPLACE" then pure .replace
  else syntaxError

/-- Reads an optional `ON CONFLICT action` of a constraint. -/
def conflictClause : ParseM (Option OnError) := do
  if ← keyword? "ON" then
    expectKeyword "CONFLICT"
    return some (← onErrorAction)
  pure none

/-- Reads names in parentheses, separated by commas. -/
def nameList : ParseM (List String) := do
  expectSymbol "("
  let mut ns := [← name]
  for _ in [0:4096] do
    if !(← symbol? ",") then break
    ns := ns ++ [← name]
  expectSymbol ")"
  pure ns

end Parse

end SqlMapper.Database
