import SqlMapper.Json.Doc
import SqlMapper.Value.Equal

/-!
# Values of JSON documents

A JSON document read as plain data: `null` is `None`, numbers with a fraction
or an exponent are floats, arrays are lists and objects are dictionaries with
string keys, a repeated key keeping its first place and its last value.
-/

namespace SqlMapper

open SqlMapper.Number

namespace Json

mutual

/-- A document as plain data. -/
def Doc.plain : Doc → Value
  | .null => .none
  | .bool b => .bool b
  | .int n => .int n
  | .num t => .float ((readFloat? t.toList).getD 0.0)
  | .str s => .str s
  | .arr items => .list (plainItems items)
  | .obj members => .dict (Value.mergeEntries (plainMembers members))

/-- Array items as plain data. -/
def plainItems : List Doc → List Value
  | [] => []
  | d :: rest => d.plain :: plainItems rest

/-- Object members as plain dictionary entries. -/
def plainMembers : List (String × Doc) → List (Value × Value)
  | [] => []
  | (k, d) :: rest => (.str k, d.plain) :: plainMembers rest

end

/-- Whether a document counts as true: not null, false, zero or empty. -/
def Doc.truthy : Doc → Bool
  | .null => false
  | .bool b => b
  | .int n => n ≠ 0
  | .num t => (readFloat? t.toList).getD 0.0 != 0.0
  | .str s => !s.isEmpty
  | .arr items => !items.isEmpty
  | .obj members => !members.isEmpty

end Json

/-- The plain data a JSON text holds, if it is one document. -/
def Value.ofJsonText? (text : String) : Option Value := (Json.Doc.read? text).map (·.plain)

end SqlMapper
