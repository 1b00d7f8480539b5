import SqlMapper.Dialect.Basic
import SqlMapper.Schema.Table

/-!
# Column types

The SQL type of a column: the declared type if there is one, the engine's
JSON type for JSON columns, the text type for enumerations, the engine's type
for a builtin class, and for a subclass of a builtin class the type of the
first class it extends in the order booleans, integers, floats, decimals,
text, bytes, dates and times, dates, times. Other classes have no type.
-/

namespace SqlMapper

namespace Dialect

/-- The builtin classes that a subclass of `b` extends, `b` first. -/
def Builtin.ancestors : Builtin → List Builtin
  | .bool => [.bool, .int]
  | .datetime => [.datetime, .date]
  | b => [b]

/-- The builtin classes with column types, in the order a subclass is matched against them. -/
def typedClasses : List Builtin :=
  [.bool, .int, .float, .decimal, .str, .bytes, .datetime, .date, .time]

/-- The SQL type of a column. -/
def sqlType (d : Dialect) (c : Column) : Except Fault String :=
  let none : Except Fault String :=
    throw (.badType ("Type `" ++ c.base.display ++ "` of column `" ++ c.name ++ "` has no known conversion to SQL type"))
  match c.sqlType with
  | some t => if t.isEmpty then (if c.isJson then pure d.jsonType else typeOfBase none) else pure t
  | Option.none => if c.isJson then pure d.jsonType else typeOfBase none
where
  typeOfBase (none : Except Fault String) : Except Fault String :=
    match c.base with
    | .cls ⟨_, _, .enum⟩ => pure ((d.dataType .str).getD "")
    | .builtin b => match d.dataType b with
      | some t => pure t
      | Option.none => none
    | .cls ⟨_, _, .derived b⟩ =>
      match typedClasses.find? (Builtin.ancestors b).contains with
      | some a => pure ((d.dataType a).getD "")
      | Option.none => none
    | _ => none

end Dialect

end SqlMapper
