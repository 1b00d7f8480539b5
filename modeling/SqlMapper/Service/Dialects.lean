import SqlMapper.Service.Inspect

/-!
# Dialect calls

Answers to requests that call the operations of one dialect one by one, each
call answered as its own item. Arguments are values; the calls about column
types name an entity class and one of its columns.
-/

namespace SqlMapper.Service

open SqlMapper.Json SqlMapper.Text

/-- The fault of calling a text method on a value that is no text. -/
def noTextMethod (v : Value) (method : String) : Fault :=
  .missingAttribute ("'" ++ v.typeName ++ "' object has no attribute '" ++ method ++ "'")

/-- The dialect of a URL scheme, or the fault that none handles it. A
scheme that counts as false is read as empty text. -/
def dialectOf (scheme : Value) : Except Fault Dialect := do
  let text ← match scheme with
    | .str s => pure s
    | v => if v.truthy then throw (noTextMethod v "split") else pure ""
  match Dialect.ofScheme? text with
  | some d => pure d
  | none => throw (.badValue ("Unsupported database scheme: " ++ scheme.text))

/-- The description of a dialect: its names, quoting, parameters and capabilities. -/
def dialectInfo (d : Dialect) : Doc :=
  .obj [("name", .str d.name), ("str", .str d.name), ("supported_schema", .arr (d.schemes.map .str)),
    ("quote_char", .str d.quoteChar.toString), ("paramstyle", .str d.paramStyle.name),
    ("supports_returning", .bool d.supportsReturning), ("supports_on_conflict", .bool d.supportsOnConflict),
    ("supports_on_duplicate_key", .bool d.supportsOnDuplicateKey),
    ("supports_insert_ignore", .bool d.supportsInsertIgnore), ("supports_distinct_on", .bool d.supportsDistinctOn),
    ("supports_cte", .bool d.supportsCte), ("supports_default_keyword", .bool d.supportsDefaultKeyword),
    ("supports_parenthesized_set_operations", .bool d.supportsParenthesizedSetOperations),
    ("supports_table_alias_in_delete", .bool d.supportsTableAliasInDelete),
    ("supports_drop_table_cascade", .bool d.supportsDropTableCascade),
    ("lastrowid_is_first_row", .bool d.lastRowIdIsFirstRow)]

/-- The class that defines a dialect operation for a dialect. -/
def methodOwner (d : Dialect) (method : String) : String :=
  match d, method with
  | .sqlite, "convert_param" | .sqlite, "limit_offset" => "SqliteDialect"
  | .mysql _, "quote_string" | .mysql _, "limit_offset" | .mysql _, "empty_insert_values" => "MysqlDialect"
  | _, _ => "Dialect"

/-- The parameters of the dialect operations that calls reach. -/
def methodParams : String → Option (List String)
  | "quote_identifier" => some ["name"]
  | "quote_literal" | "quote_string" | "encode_json" | "convert_param" => some ["value"]
  | "placeholder" => some ["index"]
  | "escape_text" => some ["text"]
  | "limit_offset" => some ["limit", "offset"]
  | "empty_insert_values" | "info" => some []
  | "sql_type" | "autoincrement_definition" => some ["model", "column"]
  | _ => none

/-- The column that a call about column types names. -/
def namedColumn (cat : Catalog) (cls col : Value) : Except Fault Column := do
  let c ← match cls with
    | .str name =>
      match cat.latest? name with
      | some c => pure c
      | none => throw (.missingKey name)
    | .type (.cls c) => pure c
    | v => throw (.missingKey v.text)
  let s ← cat.schema c
  let name := col.text
  match s.column? name with
  | some c => pure c
  | none => throw (.missingKey name)

/-- The integer of a limit or offset, none when it counts as false. -/
def countOf (v : Value) : Except Fault (Option Int) :=
  if v.truthy then return some (← v.toInt) else pure none

/-- Answers one dialect call. -/
def dialectCall (cat : Catalog) (d : Dialect) (call : Doc) : Except Fault Doc := do
  let scope : Scope := { catalog := cat, vars := [], hasDatabase := false }
  match call with
  | .arr (.str name :: argDocs) =>
    match methodParams name with
    | none => throw (.badValue ("unknown dialect call " ++ displayString name))
    | some params =>
      let args ← argDocs.mapM scope.read
      if let some f := Fault.arity? (methodOwner d name ++ "." ++ name) params 0 args.length then throw f
      match name, args with
      | "info", _ => pure (dialectInfo d)
      | "quote_identifier", [.str s] => pure (.str (d.quoteIdentifier s))
      | "quote_identifier", [v] => throw (noTextMethod v "split")
      | "quote_literal", [v] => return .str (← d.quoteLiteral v)
      | "quote_string", [.str s] => pure (.str (d.quoteString s))
      | "quote_string", [v] => throw (noTextMethod v "replace")
      | "placeholder", _ => pure (.str d.placeholder)
      | "escape_text", [.str s] => pure (.str (d.escapeText s))
      | "escape_text", [v] =>
        match d.paramStyle with
        | .qmark => pure (valueDoc v)
        | .format => throw (noTextMethod v "replace")
      | "encode_json", [v] => return .str (← d.encodeJson v)
      | "convert_param", [v] => return valueDoc (← d.convertParam v)
      | "limit_offset", [l, o] => return .str (d.limitOffset (← countOf l) (← countOf o))
      | "empty_insert_values", _ => pure (.str d.emptyInsertValues)
      | "sql_type", [cls, col] => return .str (← d.sqlType (← namedColumn cat cls col))
      | "autoincrement_definition", [cls, col] =>
        return .str (d.autoincrementDefinition (← namedColumn cat cls col).name)
      | _, _ => throw (.badValue ("unknown dialect call " ++ displayString name))
  | _ => throw (.badValue ("unknown dialect call " ++ call.plain.display))

/-- Answers a request of dialect calls. -/
def dialectRequest (req : Doc) : Except Fault Doc := do
  let d ← dialectOf (← valueField req "scheme")
  let cat ← requestCatalog req
  pure (.obj [("name", .str d.name), ("results", .arr ((listField req "calls").map fun c => itemDoc (dialectCall cat d c)))])

end SqlMapper.Service
