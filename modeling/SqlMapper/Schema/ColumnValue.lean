import SqlMapper.Schema.Table
import SqlMapper.Model.Validate
import SqlMapper.Dialect.Basic
import SqlMapper.Value.OfJson
import SqlMapper.Text.Utf8

/-!
# Values of columns

Reading a value the database returned into a column's class, writing a value
of a column as a parameter, and reaching a column's value inside an entity.

Reading: a NULL is `None` for a nullable column and the zero value of its
class otherwise; a JSON column first reads its text, or the UTF-8 text of its
bytes, as a JSON document when it is one; a column of any class takes the
value as it is; a text column takes numbers as their display form and bytes
as their UTF-8 text; then the value is validated against the column's
annotation.

Writing: `None` stays, a value equal to the zero value of a column declared
NULL-when-zero becomes `None`, and a JSON column stores the JSON text of the value.
-/

namespace SqlMapper

open SqlMapper.Text

namespace Column

/-- The UTF-8 text of bytes, or the fault of bytes that are not. -/
def utf8 (bs : List UInt8) : Except Fault String :=
  match decodeUtf8 bs with
  | .ok s => pure s
  | .error e => throw (.undecodable e.message)

/-- Reads a value the database returned into the column's class. -/
def parse (cat : Catalog) (c : Column) (v : Value) : Except Fault Value := do
  match v with
  | .none => pure (if c.nullable then .none else cat.zeroOf c.base)
  | _ =>
    let v ← if c.isJson then
        match v with
        | .bytes bs => do
          let s ← utf8 bs
          pure ((Value.ofJsonText? s).getD (.str s))
        | .str s => pure ((Value.ofJsonText? s).getD v)
        | _ => pure v
      else pure v
    if c.base == .any then return v
    let v ← match c.base, v with
      | .builtin .str, .int n => pure (.str (toString n))
      | .builtin .str, .float _ => pure (.str v.display)
      | .builtin .str, .bytes bs => pure (.str (← utf8 bs))
      | _, _ => pure v
    match cat.validate c.ann v with
    | some w => pure w
    | none => throw (.mapping ("cannot convert column " ++ displayString c.name ++ " value " ++ v.display ++
        " to " ++ c.ann.display))

/-- The value to bind as a parameter for the column. -/
def toParam (cat : Catalog) (c : Column) (d : Dialect) (v : Value) : Except Fault Value :=
  match v with
  | .none => pure .none
  | _ =>
    if c.nullzero && Value.same v (cat.zeroOf c.base) then pure .none
    else if c.isJson then return .str (← d.encodeJson v)
    else pure v

/-- The attribute of a value, `None` when it has none. -/
def attributeOf (v : Value) (name : String) : Value :=
  match v with
  | .object _ fields => ((fields.lookup name).bind id).getD .none
  | _ => .none

/-- The column's value inside an entity, following its path; `None` once a step finds `None`. -/
def getValue (c : Column) (v : Value) : Value :=
  c.path.foldl (fun acc part => match acc with
    | .none => .none
    | _ => attributeOf acc part) v

end Column

end SqlMapper
