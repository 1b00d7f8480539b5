import SqlMapper.Value.OfJson
import SqlMapper.Model.Catalog
import SqlMapper.Fault
import SqlMapper.Value.Show
import SqlMapper.Text.Case

/-!
# Type specifications

Requests name annotations by small documents: a builtin class or a declared
class by its name, any other name as a reference to be resolved later, and
objects for forward references, unions, containers, enumerations, subclasses of
builtin classes and annotations with column, relation or other metadata.
Reading one may declare classes (an enumeration the first time its name
appears, a subclass of a builtin class), so it takes a catalog and gives the
catalog after it.
-/

namespace SqlMapper.Service

open SqlMapper.Json

open SqlMapper.Schema SqlMapper.Number SqlMapper.Text

/-- The annotation a builtin name stands for. -/
def builtinSpec? (name : String) : Option Ty :=
  if name == "any" then some .any
  else (Builtin.all.find? (·.specName == name)).map .builtin

/-- An optional string option: absent or null is none. -/
def optionalText (members : List (String × Doc)) (key : String) : Option String :=
  match members.lookup key with
  | some (.str s) => some s
  | some .null | none => none
  | some d => some d.plain.text

/-- Options that a declaration does not know, sorted by name, with their display forms. -/
def extraOptions (members : List (String × Doc)) (known : List String) : List (String × String) :=
  ((members.filter fun (k, _) => !known.contains k).map fun (k, d) => (k, d.plain.display)).mergeSort
    fun a b => a.1 ≤ b.1

/-- A column declaration from its options. -/
def columnSpecOf (members : List (String × Doc)) : ColumnSpec :=
  let flag (key : String) : Bool := ((members.lookup key).map Doc.truthy).getD false
  { name := optionalText members "name"
    pk := flag "pk"
    autoincrement := flag "autoincrement"
    softDelete := flag "soft_delete"
    json := flag "json"
    embed := flag "embed"
    unique := flag "unique"
    nullzero := flag "nullzero"
    sqlType := optionalText members "type"
    extra := extraOptions members
      ["name", "pk", "autoincrement", "soft_delete", "json", "embed", "unique", "nullzero", "type"] }

/-- One join pair from its text `local=foreign`. -/
def joinPairOfText (pair : String) : Except Fault (String × String) :=
  match pair.splitOn "=" with
  | [] | [_] =>
    throw (.configuration ("invalid join pair " ++ displayString pair ++ " (expected `local=foreign`)"))
  | l :: rest => pure (trim l, trim ("=".intercalate rest))

/-- One join pair from its document: a text `local=foreign` or a pair of names. -/
def joinPairOf : Doc → Except Fault (String × String)
  | .str s => joinPairOfText s
  | .arr [.str l, .str f] => pure (trim l, trim f)
  | d => throw (.badValue ("bad join pair " ++ d.plain.display))

/-- The join pairs of a relation declaration. -/
def joinPairsOf : Option Doc → Except Fault (List (String × String))
  | none | some .null => pure []
  | some (.str "") => pure []
  | some (.str s) => (s.splitOn ",").mapM joinPairOfText
  | some (.arr []) => pure []
  | some (.arr items) => items.mapM joinPairOf
  | some d => throw (.badValue ("bad join " ++ d.plain.display))

/-- A relation declaration from its options; an unknown kind or join is refused. -/
def relationSpecOf (members : List (String × Doc)) : Except Fault RelationSpec := do
  let kind ← match optionalText members "kind" with
    | none => pure none
    | some k =>
      match RelationKind.ofName? k with
      | some rk => pure (some rk)
      | none =>
        throw (.configuration ("unknown relation kind " ++ displayString k ++ " (expected one of " ++
          ", ".intercalate (RelationKind.all.map RelationKind.name) ++ ")"))
  let join ← joinPairsOf (members.lookup "join")
  pure { kind := kind
         join := join
         junction := optionalText members "m2m"
         order := optionalText members "order"
         filter := optionalText members "where"
         extra := extraOptions members ["kind", "join", "m2m", "order", "where"] }

/-- The metadata that `column`, `relation` and `meta` members attach, in that order. -/
def tagsOf (members : List (String × Doc)) : Except Fault (List Tag) := do
  let column := match members.lookup "column" with
    | some (.obj opts) => [Tag.column (columnSpecOf opts)]
    | _ => []
  let relation ← match members.lookup "relation" with
    | some (.obj opts) => pure [Tag.relation (← relationSpecOf opts)]
    | _ => pure []
  let notes := match members.lookup "meta" with
    | some (.arr items) => items.map fun d => Tag.note d.plain.display
    | _ => []
  pure (column ++ relation ++ notes)

/-- Whether an object document holds metadata members. -/
def hasTags (members : List (String × Doc)) : Bool :=
  ["column", "relation", "meta"].any fun k => (members.lookup k).isSome

/-- The first letter of a word in upper case and the others in lower case. -/
def capitalize (s : String) : String :=
  match s.toList with
  | [] => ""
  | c :: rest => String.ofList (upperChar c ++ (lower (String.ofList rest)).toList)

/-- The fault for a type specification that has no meaning. -/
def badTypeSpec (d : Doc) : Fault := .badValue ("bad type spec " ++ d.plain.display)

/-- The documents a document gives when iterated: the items of an array,
the characters of a string, the keys of an object. -/
def iterDocs (d : Doc) : Except Fault (List Doc) :=
  match d with
  | .arr items => pure items
  | .str s => pure (s.toList.map fun c => .str c.toString)
  | .obj members => pure (members.map fun (k, _) => .str k)
  | _ => throw (.badType ("'" ++ d.typeName ++ "' object is not iterable"))

/-- Whether `|` on an annotation is the plain union of classes: it is a
class, a parameterized class or such a union. -/
def unionable : Ty → Bool
  | .builtin _ | .any | .cls _ | .generic .. | .tupleOf _ | .pipe _ => true
  | _ => false

/-- Whether an annotation is a typing form, whose `|` gives a typing union
with whatever stands on its other side. -/
def typingForm : Ty → Bool
  | .union _ | .annotated .. => true
  | _ => false

/-- The name of the class of an annotation object, as an operator error names it. -/
def annotationClassName : Ty → String
  | .builtin .noneType => "NoneType"
  | .builtin _ => "type"
  | .any => "_AnyMeta"
  | .cls c => match c.sort with
    | .enum => "EnumType"
    | .derived _ => "type"
    | _ => "ModelMetaclass"
  | .text _ => "str"
  | .ref _ => "ForwardRef"
  | .generic .. | .tupleOf _ => "GenericAlias"
  | .pipe _ => "UnionType"
  | .union _ => "_UnionGenericAlias"
  | .annotated .. => "_AnnotatedAlias"
  | .object c _ => c

/-- `a | b` of two annotations: the plain union of two classes, a typing
union when either is a typing form, and no union otherwise. -/
def pipeTwo (a b : Ty) : Except Fault Ty :=
  if unionable a && unionable b then pure (Ty.mkPipe [a, b])
  else if typingForm a || typingForm b then pure (Ty.mkUnion [a, b])
  else throw (.badType ("unsupported operand type(s) for |: '" ++ annotationClassName a ++ "' and '" ++
    annotationClassName b ++ "'"))

/-- Annotations joined by `|` from the left. -/
def pipeAll : List Ty → Except Fault Ty
  | [] => throw (.badType "reduce() of empty iterable with no initial value")
  | t :: rest => rest.foldlM pipeTwo t

/-- The typing union of annotations; there must be one. -/
def unionAll (ts : List Ty) : Except Fault Ty :=
  if ts.isEmpty then throw (.badType "Cannot take a Union of no types.") else pure (Ty.mkUnion ts)

/-- The annotation a document stands for when it is no type specification
but a value: its text form, by the class of the value. -/
def valueAsType (d : Doc) : Ty :=
  let v := d.plain
  .object d.typeName v.display

/-- The key and value documents of a `dict` specification: exactly two. -/
def dictPair (d : Doc) : Except Fault (Doc × Doc) := do
  match ← iterDocs d with
  | [k, v] => pure (k, v)
  | ds =>
    if ds.length < 2 then
      throw (.badValue ("not enough values to unpack (expected 2, got " ++ toString ds.length ++ ")"))
    else throw (.badValue "too many values to unpack (expected 2)")

mutual

/-- Reads a type specification, `fuel` levels deep. -/
def readType : Nat → Catalog → Doc → Except Fault (Ty × Catalog)
  | 0, _, d => throw (badTypeSpec d)
  | fuel + 1, cat, d =>
    match d with
    | .str name =>
      match builtinSpec? name with
      | some t => pure (t, cat)
      | none =>
        match cat.latest? name with
        | some c => pure (.cls c, cat)
        | none => pure (.text name, cat)
    | .obj members =>
      if let some f := members.lookup "fwd" then
        match f with
        | .str s => pure (.text s, cat)
        | _ => pure (valueAsType f, cat)
      else if let some f := members.lookup "forwardref" then
        match f with
        | .str s => pure (.ref s, cat)
        | _ => throw (.badType ("Forward reference must be a string -- got " ++ f.plain.display))
      else if let some t := members.lookup "optional" then do
        let (ty, cat) ← readType fuel cat t
        pure (Ty.mkOptional ty, cat)
      else if let some u := members.lookup "union" then do
        let (tys, cat) ← readTypes fuel cat (← iterDocs u)
        pure (← unionAll tys, cat)
      else if let some u := members.lookup "pipe" then do
        let (tys, cat) ← readTypes fuel cat (← iterDocs u)
        pure (← pipeAll tys, cat)
      else if let some t := members.lookup "list" then do
        let (ty, cat) ← readType fuel cat t
        pure (.generic .list [ty], cat)
      else if let some t := members.lookup "set" then do
        let (ty, cat) ← readType fuel cat t
        pure (.generic .set [ty], cat)
      else if let some kv := members.lookup "dict" then do
        let (k, v) ← dictPair kv
        let (tys, cat) ← readTypes fuel cat [k, v]
        pure (.generic .dict tys, cat)
      else if let some ts := members.lookup "tuple" then do
        let (tys, cat) ← readTypes fuel cat (← iterDocs ts)
        pure (.generic .tuple tys, cat)
      else if let some t := members.lookup "tuple_of" then do
        let (ty, cat) ← readType fuel cat t
        pure (.tupleOf ty, cat)
      else if let some (.obj ms) := members.lookup "enum" then
        let name := (optionalText members "name").getD "Enum"
        match cat.latest? name with
        | some c => pure (.cls c, cat)
        | none =>
          let (cat, c) := cat.declare name .enum (.enum (ms.map fun (k, v) => (k, v.plain)))
          pure (.cls c, cat)
      else if let some (.str b) := members.lookup "subclass_of" then
        let name := (optionalText members "name").getD ("My" ++ capitalize b)
        match cat.latest? name with
        | some c => pure (.cls c, cat)
        | none =>
          let base? := if b == "any" then some Builtin.object else Builtin.all.find? (·.specName == b)
          match base? with
          | some .bool => throw (.badType "type 'bool' is not an acceptable base type")
          | some .noneType => throw (.badType "type 'NoneType' is not an acceptable base type")
          | some base =>
            let (cat, c) := cat.declare name (.derived base) .derived
            pure (.cls c, cat)
          | none => throw (badTypeSpec d)
      else if let some t := members.lookup "annotated" then do
        let (ty, cat) ← readType fuel cat t
        let tags ← tagsOf members
        pure (Ty.mkAnnotated ty tags, cat)
      else throw (badTypeSpec d)
    | _ => throw (badTypeSpec d)

/-- Reads type specifications in order, each seeing the classes the earlier ones declared. -/
def readTypes : Nat → Catalog → List Doc → Except Fault (List Ty × Catalog)
  | _, cat, [] => pure ([], cat)
  | fuel, cat, d :: rest => do
    let (t, cat) ← readType fuel cat d
    let (ts, cat) ← readTypes fuel cat rest
    pure (t :: ts, cat)

end

/-- Reads a type specification. -/
def readSpec (cat : Catalog) (d : Doc) : Except Fault (Ty × Catalog) := readType d.depth cat d

end SqlMapper.Service
