import SqlMapper.Json.Doc
import SqlMapper.Fault
import SqlMapper.Text.Naming
import SqlMapper.Text.Template
import SqlMapper.Text.Display
import SqlMapper.Service.Request
import SqlMapper.Service.Inspect
import SqlMapper.Service.Dialects
import SqlMapper.Service.Queries
import SqlMapper.Service.Rows
import SqlMapper.Service.Connections
import SqlMapper.Service.Session

/-!
# The request service

One request document in, one answer document out. An answer is
`{"result": …}` or a fault, `{"error": class, "message": text}`.
-/

namespace SqlMapper.Service

open SqlMapper.Json

open SqlMapper.Text

/-- The document of one template token: its kind and text. -/
def tokenDoc : Token → Doc
  | .text s => .arr [.str "text", .str s]
  | .named slot => .arr [.str "named", .str slot.name]
  | .positional => .arr [.str "positional", .str "?"]

/-- Answers a request of the text functions. -/
def textRequest (req : Doc) : Except Fault Doc := do
  let fn ← textField req "fn"
  let arg ← valueField req "arg"
  let patternText : Except Fault String := match arg with
    | .str s => pure s
    | .bytes _ => throw (.badType "cannot use a string pattern on a bytes-like object")
    | v => throw (.badType ("expected string or bytes-like object, got " ++ displayString v.typeName))
  match fn with
  | "snake_case" => return .str (snakeCase (← patternText))
  | "pluralize" => match arg with
    | .str s => pure (.str (pluralize s))
    | v => throw (.missingAttribute ("'" ++ v.typeName ++ "' object has no attribute 'endswith'"))
  | "tokenize" => return .arr ((tokenize (← patternText)).map tokenDoc)
  | "count_placeholders" => return .int (countPlaceholders (← patternText))
  | other => throw (.badValue ("unknown fn " ++ displayString other))

/-- Answers a request about an annotation: its base, arguments, whether it
allows `None`, and the zero value of its base. -/
def typeRequest (req : Doc) : Except Fault Doc := do
  let cat ← requestCatalog req
  let (t, cat) ← readSpec cat (← field req "type")
  let b := t.baseType
  pure (.obj [("base", tyDoc b.base), ("args", .arr (b.args.map tyArgDoc)), ("nullable", .bool b.nullable),
    ("zero", valueDoc (cat.zeroOf b.base))])

/-- Answers one request. -/
def answer (req : Doc) : Doc :=
  itemDoc do
    match ← lookupText (← valueField req "op") with
    | "text" => textRequest req
    | "type" => typeRequest req
    | "dialect" => dialectRequest req
    | "describe" => describeRequest req
    | "column" => columnRequest req
    | "fragment" => fragmentRequest req
    | "query" => queryRequest req
    | "map_rows" => mapRowsRequest req
    | "connect" => connectRequest req
    | "session" => sessionRequest req
    | other => throw (.missingKey other)

/-- Answers one request line with one answer line. -/
def answerLine (line : String) : String :=
  match Doc.read? line with
  | some req => (answer req).render
  | none => (faultDoc (.badValue "malformed request")).render

end SqlMapper.Service
