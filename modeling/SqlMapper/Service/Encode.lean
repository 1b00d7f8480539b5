import SqlMapper.Json.Doc
import SqlMapper.Value.Show

/-!
# Values in answers

How values and annotations are written into answer documents. Plain data maps
to JSON directly; every other value is an object whose one key, starting with
`$`, names its kind: `{"$float": "1.5"}`, `{"$tuple": [...]}`,
`{"$model": "Book", "fields": {...}}`. A set lists its items ordered by their
JSON text, so that its answer does not depend on an order of storage.

An annotation is written with the names of type specifications: a builtin
class by its name, a declared class by its name, unions, generics and
annotations with metadata as small objects.
-/

namespace SqlMapper.Service

open SqlMapper.Json

open SqlMapper.Text SqlMapper.Number SqlMapper.Calendar

mutual

/-- The answer form of an annotation. -/
def tyDoc : Ty → Doc
  | .builtin b => .str b.specName
  | .any => .str "any"
  | .cls c => .str c.name
  | .text s => .obj [("fwd", .str s)]
  | .ref s => .obj [("forwardref", .str s)]
  | .union args => .obj [("union", .arr (tyDocs args))]
  | .pipe args => .obj [("union", .arr (tyDocs args))]
  | .generic origin args => .obj [(origin.specName, .arr (tyDocs args))]
  | .tupleOf elem => .obj [("tuple", .arr [tyDoc elem, .str "..."])]
  | .annotated t tags => .obj [("annotated", tyDoc t), ("meta", .int tags.length)]
  | .object _ d => .str d

/-- Answer forms of annotations. -/
def tyDocs : List Ty → List Doc
  | [] => []
  | t :: rest => tyDoc t :: tyDocs rest

end

/-- The answer form of an argument of a base annotation. -/
def tyArgDoc : TyArg → Doc
  | .ty t => tyDoc t
  | .ellipsis => .str "Ellipsis"

/-- Lowercase hexadecimal digits of bytes, two per byte. -/
def hexText (bs : List UInt8) : String := String.join (bs.map fun b => hexPadded 2 b.toNat)

/-- Whether dictionary entries can be written as an object: string keys, none starting with `$`. -/
def plainKeys (entries : List (Value × Value)) : Bool :=
  entries.all fun (k, _) =>
    match k with
    | .str s => !s.startsWith "$"
    | _ => false

/-- Inserts a document into a list ordered by compact JSON text. -/
def insertByText (d : Doc) : List Doc → List Doc
  | [] => [d]
  | e :: rest => if d.render < e.render then d :: e :: rest else e :: insertByText d rest

mutual

/-- The answer form of a value. -/
def valueDoc : Value → Doc
  | .none => .null
  | .bool b => .bool b
  | .int n => .int n
  | .float x => .obj [("$float", .str (displayFloat x))]
  | .str s => .str s
  | .bytes bs => .obj [("$bytes", .str (hexText bs))]
  | .decimal d => .obj [("$decimal", .str d.toText)]
  | .datetime dt => .obj [("$datetime", .str (dt.iso "T"))]
  | .date d => .obj [("$date", .str d.iso)]
  | .time t => .obj [("$time", .str t.iso)]
  | .tuple items => .obj [("$tuple", .arr (valueDocs items))]
  | .list items => .arr (valueDocs items)
  | .set items => .obj [("$set", .arr ((valueDocs items).foldr insertByText []))]
  | .dict entries =>
    if plainKeys entries then .obj (memberDocs entries)
    else .obj [("$dict", .arr (entryDocs entries))]
  | .member cls name v => .obj [("$enum", .arr [.str cls.name, .str name, valueDoc v])]
  | .object cls fields => .obj [("$model", .str cls.name), ("fields", .obj (fieldDocs fields))]
  | .type t => .obj [("$type", tyDoc t)]
  | .fragment f => fragmentDoc f
  | v => .obj [("$other", .str v.typeName)]

/-- Answer forms of items. -/
def valueDocs : List Value → List Doc
  | [] => []
  | v :: rest => valueDoc v :: valueDocs rest

/-- Members of an object of string keys. -/
def memberDocs : List (Value × Value) → List (String × Doc)
  | [] => []
  | (k, v) :: rest => (k.text, valueDoc v) :: memberDocs rest

/-- Dictionary entries as key and value pairs. -/
def entryDocs : List (Value × Value) → List Doc
  | [] => []
  | (k, v) :: rest => .arr [valueDoc k, valueDoc v] :: entryDocs rest

/-- The answer form of a fragment: a model of its class with its fields. -/
def fragmentDoc : Fragment → Doc
  | .ident n => .obj [("$model", .str "Ident"), ("fields", .obj [("name", .str n)])]
  | .safe sql => .obj [("$model", .str "Safe"), ("fields", .obj [("sql", .str sql)])]
  | .column n a => .obj [("$model", .str "ColumnRef"),
      ("fields", .obj [("name", .str n), ("alias", (a.map Doc.str).getD .null)])]
  | .within items => .obj [("$model", .str "In"), ("fields", .obj [("values", .obj [("$tuple", .arr (valueDocs items))])])]
  | .template t args sep => .obj [("$model", .str "SafeQuery"),
      ("fields", .obj [("template", .str t), ("args", .obj [("$tuple", .arr (valueDocs args))]), ("sep", .str sep)])]
  | .group conds sep => .obj [("$model", .str "WhereGroup"),
      ("fields", .obj [("conditions", .obj [("$tuple", .arr (fragmentDocs conds))]), ("sep", .str sep)])]
  | .base => .obj [("$model", .str "Fragment"), ("fields", .obj [])]

/-- Answer forms of fragments. -/
def fragmentDocs : List Fragment → List Doc
  | [] => []
  | f :: rest => fragmentDoc f :: fragmentDocs rest

/-- Fields of a model; an unset field is marked missing. -/
def fieldDocs : List (String × Option Value) → List (String × Doc)
  | [] => []
  | (n, some v) :: rest => (n, valueDoc v) :: fieldDocs rest
  | (n, .none) :: rest => (n, .obj [("$missing", .bool true)]) :: fieldDocs rest

end

end SqlMapper.Service
