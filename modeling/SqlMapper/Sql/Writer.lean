import SqlMapper.Dialect.Basic
import SqlMapper.Schema.Table
import SqlMapper.Text.Template

/-!
# Writing statement text

A statement is written as a sequence of pieces: text, and values. What a piece
looks like depends on the *frame* it is written in: the dialect, the table
whose columns unqualified names refer to, and the alias that qualifies them.
Nested frames write into the same statement with another table, as a
sub-query or a joined table does.

Only when the pieces are put together is it decided whether values are bound
as parameters or written inline as literals: bound, text is escaped for the
dialect's parameter markers and a value becomes a marker and a parameter;
inline, text stays as written and a value becomes its literal. Identifiers
are quoted part by part as they are written.
-/

namespace SqlMapper

open SqlMapper.Schema SqlMapper.Calendar SqlMapper.Text

/-- The text and the parameters of a statement written so far. -/
structure Statement where
  text : String := ""
  params : Array Value := #[]
  deriving Inhabited

/-- A piece of a statement: text, or a value bound as a parameter or written inline. -/
inductive Piece where
  | text (text : String)
  | value (v : Value)
  deriving Inhabited

/-- Writing a statement: pieces accumulate, and a fault stops the writing with the
pieces written before it kept. -/
abbrev SqlM := ExceptT Fault (StateM (Array Piece))

/-- Where a piece of a statement is written. -/
structure Frame where
  catalog : Catalog
  dialect : Dialect
  /-- The table that named placeholders and bare columns refer to. -/
  table : Option TableSchema := none
  /-- The alias that qualifies the table's columns, when not the table's own. -/
  explicitAlias : Option String := none
  /-- The time that soft deletes record. -/
  clock : DateTime

namespace Frame

/-- The alias that qualifies the bound table's columns: the frame's own unless
it is empty, else the table's. -/
def aliasName (fr : Frame) : Option String :=
  match fr.explicitAlias with
  | some a => if a.isEmpty then fr.table.map (·.aliasName) else some a
  | none => fr.table.map (·.aliasName)

/-- A frame writing into the same statement with another table and alias. -/
def nested (fr : Frame) (table : Option TableSchema) (aliasName : Option String := none) : Frame :=
  { fr with table := table, explicitAlias := aliasName }

/-- Appends a piece. -/
def emit (piece : Piece) : SqlM Unit :=
  modify fun pieces => pieces.push piece

/-- Writes statement text. -/
def write (_fr : Frame) (text : String) : SqlM Unit :=
  if text.isEmpty then pure () else emit (.text text)

/-- Writes a quoted identifier. -/
def writeIdent (fr : Frame) (name : String) : SqlM Unit := fr.write (fr.dialect.quoteIdentifier name)

/-- Writes a column qualified by an alias, the frame's alias unless one is given. -/
def writeColumn (fr : Frame) (name : String) (aliasName : Option String := none) : SqlM Unit :=
  let chosen := match aliasName with
    | some a => if a.isEmpty then fr.aliasName else some a
    | none => fr.aliasName
  match chosen with
  | some a => if a.isEmpty then fr.writeIdent name else fr.writeIdent (a ++ "." ++ name)
  | none => fr.writeIdent name

/-- Writes a named placeholder from the frame's table. -/
def writeSlot (fr : Frame) (slot : Slot) : SqlM Unit :=
  match fr.table with
  | none => throw (.configuration ("?" ++ slot.name ++ " requires a query with a model"))
  | some t =>
    let a := (fr.aliasName).getD t.aliasName
    let qualified (cs : List Column) : String :=
      ", ".intercalate (cs.map fun c => fr.dialect.quoteIdentifier (a ++ "." ++ c.name))
    match slot with
    | .tableName => fr.writeIdent t.name
    | .tableAlias => fr.writeIdent a
    | .pks => fr.write (qualified t.pks)
    | .tableColumns => fr.write (qualified t.columns)

/-- Writes a plain value, bound or inline as the statement is put together. -/
def writeParam (_fr : Frame) (v : Value) : SqlM Unit := emit (.value v)

/-- Writes items with a separator between them. -/
def writeJoined {α : Type} (fr : Frame) (sep : String) (f : α → SqlM Unit) : List α → SqlM Unit
  | [] => pure ()
  | [x] => f x
  | x :: rest => do f x; fr.write sep; writeJoined fr sep f rest

end Frame

namespace Statement

/-- Adds a piece to a statement. Bound, text is escaped for the dialect's
parameter markers and a value becomes a marker and the next parameter; inline,
text stays as written and a value becomes its literal. -/
def add (d : Dialect) (inline : Bool) (st : Statement) : Piece → Except Fault Statement
  | .text s => pure { st with text := st.text ++ if inline then s else d.escapeText s }
  | .value v =>
    if inline then return { st with text := st.text ++ (← d.quoteLiteral v) }
    else return { text := st.text ++ d.placeholder, params := st.params.push (← d.convertParam v) }

/-- The statement of pieces, put together in order; the first piece that cannot be
added stops it. -/
def build (d : Dialect) (inline : Bool) (pieces : Array Piece) : Except Fault Statement :=
  pieces.foldlM (add d inline) {}

end Statement

/-- Writes a statement and puts it together. A piece that cannot be added stops it
first: it stood in the statement before any fault the writing met later. -/
def SqlM.statement (m : SqlM Unit) (d : Dialect) (inline : Bool) : Except Fault Statement :=
  let (result, pieces) := m.run.run #[]
  match Statement.build d inline pieces, result with
  | .error f, _ => .error f
  | .ok _, .error f => .error f
  | .ok st, .ok () => .ok st

/-- The separator written before a fragment that follows another condition. -/
def Fragment.sep? : Fragment → Except Fault String
  | .template _ _ sep => pure sep
  | .group _ sep => pure sep
  | f => throw (.missingAttribute ("'" ++ f.className ++ "' object has no attribute 'sep'"))

/-- How to write the pieces a statement holds, one level of nesting down. -/
structure Painter where
  /-- Writes an argument: a fragment or a sub-query inline, any other value as a parameter. -/
  value : Frame → Value → SqlM Unit
  fragment : Frame → Fragment → SqlM Unit
  /-- Writes the statement of a query value, without parentheses. -/
  query : Frame → Value → SqlM Unit

namespace Painter

/-- Writes conditions, each in parentheses, each after the first preceded by its own separator. -/
def conditions (p : Painter) (fr : Frame) (conds : List Fragment) : SqlM Unit := do
  let mut first := true
  for c in conds do
    if !first then fr.write (← c.sep?)
    first := false
    fr.write "("
    p.fragment fr c
    fr.write ")"

/-- Writes fragments separated by `sep`. -/
def list (p : Painter) (fr : Frame) (sep : String) (fs : List Fragment) : SqlM Unit :=
  fr.writeJoined sep (p.fragment fr) fs

end Painter

end SqlMapper
