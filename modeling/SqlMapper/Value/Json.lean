import SqlMapper.Value.Show
import SqlMapper.Fault
import SqlMapper.Text.Utf8

/-!
# JSON text of values

Values become JSON text the way composite parameters are stored: `null`,
`true`, numbers as their display forms (`NaN` and `Infinity` for the
non-finite floats), strings quoted with only the quote, the backslash and
control characters escaped, lists and tuples as arrays with `", "` between
items, dictionaries as objects with `": "` after each key. Keys are text:
strings stay, numbers, booleans and `None` take their JSON text, and other
keys are refused. Every other value is written as its text form.

A model, or a fragment, that stands at the top is first turned into its
fields (`Value.jsonable`): calendar values become ISO text, decimals their
scientific string, members their values, containers lists, models and
fragments dictionaries of their fields.

Some engines keep a NUL character inside JSON text apart by storing its escape
as text: `substituteNul` turns every `\u0000` escape that is not itself
escaped into `\\u0000`.
-/

namespace SqlMapper

open SqlMapper.Text SqlMapper.Number SqlMapper.Calendar

/-- One character inside a JSON string. -/
def jsonEscape (c : Char) : String :=
  match c with
  | '"' => "\\\""
  | '\\' => "\\\\"
  | '\n' => "\\n"
  | '\r' => "\\r"
  | '\t' => "\\t"
  | '\x08' => "\\b"
  | '\x0c' => "\\f"
  | _ => if c.toNat < 0x20 then "\\u" ++ hexPadded 4 c.toNat else c.toString

/-- A string as a JSON string. -/
def jsonQuote (s : String) : String := "\"" ++ String.join (s.toList.map jsonEscape) ++ "\""

/-- The text a value takes as a JSON object key, if it can be one. -/
def jsonKey? : Value → Option String
  | .str s => some s
  | .int n => some (toString n)
  | .float x => some (formatFloat .json x)
  | .bool b => some (if b then "true" else "false")
  | .none => some "null"
  | _ => none

/-- UTF-8 text of bytes, with a replacement character for each byte that is no part of a character. -/
def decodeUtf8Lossy (bs : List UInt8) : String :=
  match String.fromUTF8? (ByteArray.mk bs.toArray) with
  | some s => s
  | none => String.ofList (bs.map fun b => if b < 0x80 then Char.ofNat b.toNat else '�')

mutual

/-- A value as the plain data its JSON form holds: calendar values as ISO text
(`Z` for a zero offset), decimals as text, bytes as their UTF-8 text, the
non-finite floats as `None`, members as their values, models and fragments as
their fields. Bytes that are no UTF-8 are refused. -/
def Value.jsonable : Value → Except Fault Value
  | .tuple items => return .list (← Value.jsonableList items)
  | .list items => return .list (← Value.jsonableList items)
  | .set items => return .list (← Value.jsonableList items)
  | .dict entries => return .dict (← Value.jsonableEntries entries)
  | .float x => pure (if x.isNaN || x.isInf then .none else .float x)
  | .datetime dt =>
    if dt.time.offset = some 0 then pure (.str (dt.date.iso ++ "T" ++ dt.time.naive.iso ++ "Z"))
    else pure (.str (dt.iso "T"))
  | .date d => pure (.str d.iso)
  | .time t => pure (.str (if t.offset = some 0 then t.naive.iso ++ "Z" else t.iso))
  | .decimal d => pure (.str d.toText)
  | .bytes bs =>
    match decodeUtf8 bs with
    | .ok s => pure (.str s)
    | .error e => throw (.undecodable ("'utf-8' codec can't decode byte 0x" ++ hexPadded 2 e.firstByte.toNat ++
        " in position " ++ toString e.start ++ ": invalid utf-8"))
  | .member _ _ v => v.jsonable
  | .object _ fields => return .dict (← Value.jsonableFields fields)
  | .fragment f => return .dict (← Fragment.jsonableFields f)
  | .type t => pure (.str t.display)
  | v => pure v

/-- Items as plain data. -/
def Value.jsonableList : List Value → Except Fault (List Value)
  | [] => pure []
  | v :: rest => return (← v.jsonable) :: (← Value.jsonableList rest)

/-- Dictionary entries as plain data, each key as its text. -/
def Value.jsonableEntries : List (Value × Value) → Except Fault (List (Value × Value))
  | [] => pure []
  | (k, v) :: rest => return (.str (← k.keyText), ← v.jsonable) :: (← Value.jsonableEntries rest)

/-- The text of a dictionary key in plain data: `None` and the numbers as
they show, the booleans as in JSON, a tuple as the texts of its items joined
by commas, a member as its value, the rest as their plain data. -/
def Value.keyText : Value → Except Fault String
  | .none => pure "None"
  | .bool b => pure (if b then "true" else "false")
  | .str s => pure s
  | .int n => pure (toString n)
  | .float x => pure (Value.float x).display
  | .tuple items => return ",".intercalate (← Value.keyTexts items)
  | .member _ _ v => v.keyText
  | k => do
    match ← k.jsonable with
    | .str s => pure s
    | _ => pure k.text

/-- The key texts of the items of a tuple. -/
def Value.keyTexts : List Value → Except Fault (List String)
  | [] => pure []
  | k :: rest => return (← k.keyText) :: (← Value.keyTexts rest)

/-- Set fields of a model as plain data, keyed by name. -/
def Value.jsonableFields : List (String × Option Value) → Except Fault (List (Value × Value))
  | [] => pure []
  | (_, .none) :: rest => Value.jsonableFields rest
  | (n, some v) :: rest => return (.str n, ← v.jsonable) :: (← Value.jsonableFields rest)

/-- Fields of a fragment as plain data; conditions of a group keep no fields. -/
def Fragment.jsonableFields : Fragment → Except Fault (List (Value × Value))
  | .ident name => pure [(.str "name", .str name)]
  | .safe sql => pure [(.str "sql", .str sql)]
  | .column name aliasName => pure [(.str "name", .str name), (.str "alias", (aliasName.map Value.str).getD .none)]
  | .within items => return [(.str "values", .list (← Value.jsonableList items))]
  | .template text args sep =>
    return [(.str "template", .str text), (.str "args", .list (← Value.jsonableList args)), (.str "sep", .str sep)]
  | .group conds sep => pure [(.str "conditions", .list (conds.map fun _ => .dict [])), (.str "sep", .str sep)]
  | .base => pure []

end

mutual

/-- The JSON text of a value. -/
def Value.jsonText : Value → Except Fault String
  | .none => .ok "null"
  | .bool b => .ok (if b then "true" else "false")
  | .int n => .ok (toString n)
  | .float x => .ok (formatFloat .json x)
  | .str s => .ok (jsonQuote s)
  | .tuple items => return "[" ++ (← Value.jsonItems items) ++ "]"
  | .list items => return "[" ++ (← Value.jsonItems items) ++ "]"
  | .dict entries => return "\x7b" ++ (← Value.jsonMembers entries) ++ "\x7d"
  | v => .ok (jsonQuote v.text)

/-- JSON texts of items separated by commas. -/
def Value.jsonItems : List Value → Except Fault String
  | [] => .ok ""
  | [v] => v.jsonText
  | v :: rest => return (← v.jsonText) ++ ", " ++ (← Value.jsonItems rest)

/-- JSON texts of object members separated by commas. -/
def Value.jsonMembers : List (Value × Value) → Except Fault String
  | [] => .ok ""
  | (k, v) :: rest => do
    let key ← match jsonKey? k with
      | some t => pure t
      | Option.none => throw (.badType ("keys must be str, int, float, bool or None, not " ++ k.typeName))
    let member := jsonQuote key ++ ": " ++ (← v.jsonText)
    match rest with
    | [] => return member
    | _ => return member ++ ", " ++ (← Value.jsonMembers rest)

end

/-- A value as it is dumped to JSON: a model or a fragment as its fields, any
other value as it is. -/
def Value.modelDumped (v : Value) : Except Fault Value :=
  match v with
  | .object .. | .fragment _ => v.jsonable
  | _ => pure v

/-- The JSON text of a value, a model or a fragment first turned into its fields. -/
def Value.dumps (v : Value) : Except Fault String := do
  let v ← v.modelDumped
  v.jsonText

/-- Rewrites the `\u0000` escapes of JSON text that follow an even number of
backslashes, `pending` backslashes being already read. -/
def substituteNulChars : Nat → List Char → List Char
  | pending, '\\' :: rest => substituteNulChars (pending + 1) rest
  | pending, 'u' :: '0' :: '0' :: '0' :: '0' :: rest =>
    let kept := if pending ≥ 1 && (pending - 1) % 2 == 0 then pending + 1 else pending
    List.replicate kept '\\' ++ ['u', '0', '0', '0', '0'] ++ substituteNulChars 0 rest
  | pending, c :: rest => List.replicate pending '\\' ++ c :: substituteNulChars 0 rest
  | pending, [] => List.replicate pending '\\'

/-- JSON text with each escaped NUL stored as the text of its escape. -/
def substituteNul (text : String) : String := String.ofList (substituteNulChars 0 text.toList)

end SqlMapper
