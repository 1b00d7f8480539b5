import SqlMapper.Value.Json
import SqlMapper.Value.Coerce

/-!
# SQL dialects

The three engines a statement can be written for, and every decision that
differs between them: how identifiers and strings are quoted, how parameters
are marked, how values are written inline, how `LIMIT` and `OFFSET` are
spelled, which column types the tables get, and which clauses the engine
supports. MySQL comes in two generations; the older one has no common table
expressions and no table alias in `DELETE`.
-/

namespace SqlMapper

open SqlMapper.Text SqlMapper.Number

/-- An SQL engine. -/
inductive Dialect where
  | sqlite
  | postgres
  /-- MySQL of a major version. -/
  | mysql (version : Nat)
  deriving DecidableEq, Repr, Inhabited

/-- How a driver marks parameters. -/
inductive ParamStyle where
  /-- `?` -/
  | qmark
  /-- `%s`, a literal percent sign written twice. -/
  | format
  deriving DecidableEq, Repr, Inhabited

/-- The name of a way of marking parameters. -/
def ParamStyle.name : ParamStyle → String
  | .qmark => "qmark"
  | .format => "format"

/-- A member as its value; any other value as it is. -/
def Value.memberValue : Value → Value
  | .member _ _ w => w
  | v => v

namespace Dialect

/-- The name of a dialect. -/
def name : Dialect → String
  | .sqlite => "sqlite"
  | .postgres => "pg"
  | .mysql v => "mysql" ++ toString v

/-- The URL schemes an engine handles. -/
def schemes : Dialect → List String
  | .sqlite => ["sqlite"]
  | .postgres => ["postgresql", "postgres", "pg"]
  | .mysql _ => ["mysql", "mysql5", "mysql8"]

/-- The dialect of a URL scheme: a driver suffix after `+` is ignored and case does not matter. -/
def ofScheme? (scheme : String) : Option Dialect :=
  let s := lower ((scheme.splitOn "+").headD "")
  if s == "sqlite" then some .sqlite
  else if ["postgresql", "postgres", "pg"].contains s then some .postgres
  else if s == "mysql" || s == "mysql8" then some (.mysql 8)
  else if s == "mysql5" then some (.mysql 5)
  else none

/-- The character that quotes identifiers. -/
def quoteChar : Dialect → Char
  | .mysql _ => '`'
  | _ => '"'

/-- How the engine's driver marks parameters. -/
def paramStyle : Dialect → ParamStyle
  | .sqlite => .qmark
  | _ => .format

/-- Whether an escaped NUL inside JSON text is stored as the text of its escape. -/
def substitutesJsonNul : Dialect → Bool
  | .mysql _ => false
  | _ => true

/-- Whether `RETURNING` is supported. -/
def supportsReturning : Dialect → Bool
  | .mysql _ => false
  | _ => true

/-- Whether `ON CONFLICT` is supported. -/
def supportsOnConflict : Dialect → Bool
  | .mysql _ => false
  | _ => true

/-- Whether `ON DUPLICATE KEY UPDATE` is supported. -/
def supportsOnDuplicateKey : Dialect → Bool
  | .mysql _ => true
  | _ => false

/-- Whether `INSERT IGNORE` is supported. -/
def supportsInsertIgnore : Dialect → Bool
  | .mysql _ => true
  | _ => false

/-- Whether `DISTINCT ON` is supported. -/
def supportsDistinctOn : Dialect → Bool
  | .postgres => true
  | _ => false

/-- Whether common table expressions are supported. -/
def supportsCte : Dialect → Bool
  | .mysql v => v ≥ 8
  | _ => true

/-- Whether `DEFAULT` may stand for a value. -/
def supportsDefaultKeyword : Dialect → Bool
  | .sqlite => false
  | _ => true

/-- Whether the operands of set operations may be parenthesized. -/
def supportsParenthesizedSetOperations : Dialect → Bool
  | .sqlite => false
  | _ => true

/-- Whether `DELETE` may name its table with an alias. -/
def supportsTableAliasInDelete : Dialect → Bool
  | .mysql v => v ≥ 8
  | _ => true

/-- Whether `DROP TABLE … CASCADE` is supported. -/
def supportsDropTableCascade : Dialect → Bool
  | .sqlite => false
  | _ => true

/-- Whether the generated key reported after a many-row insert is the first row's. -/
def lastRowIdIsFirstRow : Dialect → Bool
  | .sqlite => false
  | _ => true

/-- The column type of values of a builtin class, if the engine has one. -/
def dataType : Dialect → Builtin → Option String
  | .sqlite, b => match b with
    | .bool => some "BOOLEAN" | .int => some "INTEGER" | .float => some "REAL"
    | .decimal => some "NUMERIC" | .str => some "TEXT" | .bytes => some "BLOB"
    | .datetime => some "TIMESTAMP" | .date => some "DATE" | .time => some "TIME"
    | _ => none
  | .postgres, b => match b with
    | .bool => some "BOOLEAN" | .int => some "BIGINT" | .float => some "DOUBLE PRECISION"
    | .decimal => some "NUMERIC" | .str => some "VARCHAR" | .bytes => some "BYTEA"
    | .datetime => some "TIMESTAMPTZ" | .date => some "DATE" | .time => some "TIME"
    | _ => none
  | .mysql _, b => match b with
    | .bool => some "BOOLEAN" | .int => some "BIGINT" | .float => some "DOUBLE"
    | .decimal => some "DECIMAL(65, 30)" | .str => some "VARCHAR(255)" | .bytes => some "BLOB"
    | .datetime => some "DATETIME(6)" | .date => some "DATE" | .time => some "TIME(6)"
    | _ => none

/-- The column type of JSON values. -/
def jsonType : Dialect → String
  | .postgres => "JSONB"
  | _ => "JSON"

/-- Quotes one part of an identifier. -/
def quotePart (d : Dialect) (part : String) : String :=
  if part == "*" then part
  else
    let q := d.quoteChar
    String.ofList (q :: (part.toList.flatMap fun c => if c == q then [q, q] else [c]) ++ [q])

/-- The parts of a dotted name, split at every dot. -/
@[irreducible] def dottedParts (name : String) : List String := (name.toList.splitOn '.').map String.ofList

/-- Quotes a dotted identifier part by part; a `*` part stays bare. -/
def quoteIdentifier (d : Dialect) (name : String) : String :=
  ".".intercalate ((dottedParts name).map d.quotePart)

/-- The marker of a parameter. -/
def placeholder (d : Dialect) : String :=
  match d.paramStyle with
  | .format => "%s"
  | .qmark => "?"

/-- Statement text with its percent signs doubled where they would read as markers. -/
def escapeText (d : Dialect) (text : String) : String :=
  match d.paramStyle with
  | .format => String.ofList (text.toList.flatMap fun c => if c == '%' then ['%', '%'] else [c])
  | .qmark => text

/-- A string as an SQL string literal. -/
def quoteString (d : Dialect) (s : String) : String :=
  match d with
  | .mysql _ =>
    "'" ++ String.ofList (s.toList.flatMap fun c =>
      if c == '\\' then ['\\', '\\'] else if c == '\'' then ['\'', '\''] else if c == '\x00' then ['\\', '0'] else [c])
      ++ "'"
  | _ => "'" ++ String.ofList (s.toList.flatMap fun c => if c == '\'' then ['\'', '\''] else [c]) ++ "'"

/-- A boolean as an SQL literal. -/
def boolLiteral (d : Dialect) (b : Bool) : String :=
  match d with
  | .sqlite => if b then "1" else "0"
  | _ => if b then "TRUE" else "FALSE"

/-- A NaN or an infinity as an SQL literal. -/
def nonFiniteLiteral (d : Dialect) (x : Float) : String :=
  match d with
  | .postgres => if x != x then "'NaN'" else if x > 0 then "'Infinity'" else "'-Infinity'"
  | _ => "NULL"

/-- Lowercase hexadecimal digits of bytes, two per byte. -/
def hexOf (bs : List UInt8) : String := String.join (bs.map fun b => hexPadded 2 b.toNat)

/-- Bytes as an SQL literal. -/
def bytesLiteral (d : Dialect) (bs : List UInt8) : String :=
  match d with
  | .postgres => "'\\x" ++ hexOf bs ++ "'"
  | _ => "X'" ++ hexOf bs ++ "'"

/-- The tail that gives every column of an inserted row its default. -/
def emptyInsertValues : Dialect → String
  | .mysql _ => " () VALUES ()"
  | _ => " DEFAULT VALUES"

/-- The definition of a generated integer key column. -/
def autoincrementDefinition (d : Dialect) (column : String) : String :=
  d.quoteIdentifier column ++
    match d with
    | .sqlite => " INTEGER NOT NULL"
    | .postgres => " BIGSERIAL NOT NULL"
    | .mysql _ => " BIGINT NOT NULL AUTO_INCREMENT"

/-- The limit that stands for no limit, where the engine cannot write an offset without one. -/
def unboundedLimit? : Dialect → Option String
  | .sqlite => some "-1"
  | .mysql _ => some "18446744073709551615"
  | .postgres => none

/-- The `LIMIT` and `OFFSET` tail, with a leading blank; an offset alone needs an
unbounded limit where the engine cannot do without one. -/
def limitOffset (d : Dialect) (limit offset : Option Int) : String :=
  let limitText := match limit, offset with
    | some l, _ => some (toString l)
    | none, some _ => d.unboundedLimit?
    | none, none => none
  (limitText.map (" LIMIT " ++ ·)).getD "" ++ (offset.map fun o => " OFFSET " ++ toString o).getD ""

/-- The JSON text of a composite value, a model or fragment first turned into its
fields; where the engine needs it, escaped NULs are then stored as text. -/
def encodeJson (d : Dialect) (v : Value) : Except Fault String := do
  let text ← v.dumps
  pure (if d.substitutesJsonNul then substituteNul text else text)

/-- Whether a value is stored as JSON text when it is a parameter. -/
def isComposite : Value → Bool
  | .dict _ | .list _ | .tuple _ | .set _ | .object .. | .fragment _ => true
  | _ => false

/-- A value as a driver takes it as a parameter: members as their values,
composite values as JSON text, a set sorted by display form first; SQLite also
takes calendar values and decimals as text. -/
def convertParam (d : Dialect) (v : Value) : Except Fault Value :=
  match d, v with
  | .sqlite, .datetime dt => pure (.str (dt.iso " "))
  | .sqlite, .date x => pure (.str x.iso)
  | .sqlite, .time t => pure (.str t.iso)
  | .sqlite, .decimal x => pure (.str x.toText)
  | _, .member _ _ w => pure w
  | _, .set items => return .str (← d.encodeJson (.list (items.mergeSort fun a b => a.display ≤ b.display)))
  | _, v => if isComposite v then return .str (← d.encodeJson v) else pure v

/-- The SQL literal of a value that is no container, if it has one. -/
def scalarLiteral? (d : Dialect) : Value → Option String
  | .none => some "NULL"
  | .bool b => some (d.boolLiteral b)
  | .int n => some (toString n)
  | .float x =>
    match classify x with
    | .nan | .infinite _ => some (d.nonFiniteLiteral x)
    | _ => some (displayFloat x)
  | .decimal x => some x.toText
  | .bytes bs => some (d.bytesLiteral bs)
  | .datetime dt => some (d.quoteString (dt.iso " "))
  | .date x => some (d.quoteString x.iso)
  | .time t => some (d.quoteString t.iso)
  | .str s => some (d.quoteString s)
  | _ => none

/-- A value that is no member written inline as an SQL literal: a composite value
as the string of its parameter. -/
def plainLiteral (d : Dialect) (v : Value) : Except Fault String := do
  match d.scalarLiteral? v with
  | some s => pure s
  | none =>
    if isComposite v then
      match ← d.convertParam v with
      | .str s => pure (d.quoteString s)
      | w => pure ((d.scalarLiteral? w).getD "NULL")
    else throw (.badType (d.name ++ ": cannot render " ++ v.typeName ++ " as a SQL literal"))

/-- A value written inline as an SQL literal: a member as its value. -/
def quoteLiteral (d : Dialect) (v : Value) : Except Fault String := d.plainLiteral v.memberValue

end Dialect

end SqlMapper
