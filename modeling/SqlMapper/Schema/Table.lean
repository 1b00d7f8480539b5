import SqlMapper.Model.Zero
import SqlMapper.Text.Naming

/-!
# Table schemas

The schema of an entity class: its table name and alias, its columns and its
relations. Every field typed with an entity class, or a list, tuple or set of
one, is a relation; every other field is a column, and a field declared as an
embedded structure expands into one column per field of the structure, named
with the field's name and `__` in front. The table name is the declared one
or the plural of the class name in snake case; the alias is the declared one
or the class name in snake case.

When no column is declared a key, a column named `id` is the key, and it is
generated when it holds integers. Column names must differ when case is
ignored.

Names written as strings in annotations are resolved against the entity
classes first; a name that none has makes the schema fail.
-/

namespace SqlMapper

open SqlMapper.Schema SqlMapper.Text

/-- A stored column of a table. -/
structure Column where
  /-- The SQL name. -/
  name : String
  /-- Attribute names from the entity to the value. -/
  path : List String
  /-- The annotation without its metadata. -/
  ann : Ty
  /-- The class of the stored values. -/
  base : Ty
  nullable : Bool
  default : Value
  pk : Bool
  autoincrement : Bool
  softDelete : Bool
  isJson : Bool
  unique : Bool
  nullzero : Bool
  sqlType : Option String
  deriving Inhabited

/-- A link from the table that owns the field to a target table. -/
structure Relation where
  name : String
  owner : ClassRef
  /-- The target class, or its name while it is not resolved. -/
  target : Ty
  toMany : Bool
  nullable : Bool
  declaredKind : Option RelationKind
  join : List (String × String)
  junction : Option String
  order : Option String
  filter : Option String
  deriving Inhabited

/-- The schema of an entity class. -/
structure TableSchema where
  cls : ClassRef
  name : String
  aliasName : String
  columns : List Column
  relations : List Relation
  deriving Inhabited

namespace TableSchema

/-- The column of an SQL name, case ignored. -/
def column? (s : TableSchema) (name : String) : Option Column :=
  (s.columns.filter fun c => lower c.name == lower name).getLast?

/-- The relation of a name, case ignored. -/
def relation? (s : TableSchema) (name : String) : Option Relation :=
  (s.relations.filter fun r => lower r.name == lower name).getLast?

/-- The key columns. -/
def pks (s : TableSchema) : List Column := s.columns.filter (·.pk)

/-- The columns outside the key. -/
def dataColumns (s : TableSchema) : List Column := s.columns.filter (!·.pk)

/-- The column that marks rows as deleted, if any. -/
def softDeleteColumn (s : TableSchema) : Option Column := s.columns.find? (·.softDelete)

end TableSchema

/-- Whether values of a base class are stored as JSON text: containers and models. -/
def Ty.isJsonBase : Ty → Bool
  | .builtin .dict | .builtin .list | .builtin .tuple | .builtin .set => true
  | t => t.isModel

/-- The column declaration among metadata, or the default one. -/
def columnTagOf (tags : List Tag) : ColumnSpec :=
  (tags.findSome? fun t => match t with
    | .column c => some c
    | _ => none).getD {}

/-- The relation declaration among metadata, if any. -/
def relationTagOf (tags : List Tag) : Option RelationSpec :=
  tags.findSome? fun t => match t with
    | .relation r => some r
    | _ => none

/-- The table name of an entity class: the declared one, else the plural of its name in snake case. -/
def Catalog.tableNameOf (cat : Catalog) (c : ClassRef) : String :=
  ((cat.tableName? c.id).filter (!·.isEmpty)).getD (pluralize (snakeCase c.name))

mutual

/-- An annotation with each name replaced by the entity class of that name, or
the first name that no entity class has. -/
def Catalog.resolve (cat : Catalog) : Ty → Except String Ty
  | .text name | .ref name =>
    match cat.table? name with
    | some c => pure (.cls c)
    | none => throw name
  | .union args => return .union (← Catalog.resolveList cat args)
  | .pipe args => return .pipe (← Catalog.resolveList cat args)
  | .generic origin args => return .generic origin (← Catalog.resolveList cat args)
  | .tupleOf t => return .tupleOf (← Catalog.resolve cat t)
  | .annotated t tags => return .annotated (← Catalog.resolve cat t) tags
  | t => pure t

/-- Annotations with their names resolved. -/
def Catalog.resolveList (cat : Catalog) : List Ty → Except String (List Ty)
  | [] => pure []
  | t :: rest => return (← Catalog.resolve cat t) :: (← Catalog.resolveList cat rest)

end

/-- What a field's annotation makes it: a relation to a target, with whether it
is to many rows and whether it may be `None`. -/
def relationTarget? (ann : Ty) : Option (Ty × Bool × Bool) :=
  let b := ann.baseType
  match b.base, b.args with
  | .builtin .list, [.ty t] | .builtin .tuple, [.ty t] | .builtin .set, [.ty t] =>
    let target := (Ty.stripTags t).1
    match target with
    | .text _ | .ref _ => some (target, true, b.nullable)
    | _ => if target.isTable then some (target, true, b.nullable) else none
  | base, _ => if base.isTable then some (base, false, b.nullable) else none

/-- The columns of one stored field; an embedded structure expands into the
columns of its fields, `fuel` levels deep. -/
def Catalog.fieldColumns (cat : Catalog) : Nat → String → List String → Ty → List Tag → Value → String → Bool →
    Except Fault (List Column)
  | 0, _, _, _, _, _, _, _ => pure []
  | fuel + 1, name, path, ann, tags, default, pre, parentNullable => do
    let (ann, innerTags) := ann.stripTags
    let tag := columnTagOf (tags ++ innerTags)
    let b := ann.baseType
    let nullable := b.nullable || parentNullable
    let columnName := pre ++ (tag.name.filter (!·.isEmpty)).getD name
    if tag.embed then
      match b.base with
      | .cls c =>
        if c.sort == .struct then
          let subs ← (cat.fields c.id).mapM fun f =>
            let (fann, ftags) := f.ann.stripTags
            cat.fieldColumns fuel (snakeCase f.name) (path ++ [f.name]) fann ftags (f.default.getD .none)
              (columnName ++ "__") nullable
          pure subs.flatten
        else throw (.configuration ("column " ++ displayString columnName ++ ": only Pydantic models can be embedded"))
      | _ => throw (.configuration ("column " ++ displayString columnName ++ ": only Pydantic models can be embedded"))
    else
      pure [{ name := columnName, path := path, ann := ann, base := b.base, nullable := nullable,
              default := default, pk := tag.pk, autoincrement := tag.autoincrement,
              softDelete := tag.softDelete, isJson := tag.json || b.base.isJsonBase, unique := tag.unique,
              nullzero := tag.nullzero, sqlType := tag.sqlType }]

/-- Makes a column named `id` the generated key when no column is a key. -/
def withDefaultKey (columns : List Column) : List Column :=
  if columns.any (·.pk) then columns
  else columns.map fun c =>
    if c.name == "id" && c.path.length == 1 then
      { c with pk := true, autoincrement := c.autoincrement || c.base == .builtin .int }
    else c

/-- The first column name that an earlier column has too, case ignored. -/
def firstDuplicate : List String → List String → Option String
  | _, [] => none
  | seen, n :: rest => if seen.contains (lower n) then some n else firstDuplicate (lower n :: seen) rest

/-- What a field of an entity class describes, its names resolved: a relation when its
annotation, without the field's metadata, is typed with an entity class or a collection of one,
else its columns. The declarations come from the field's metadata. -/
def Catalog.fieldPart (cat : Catalog) (c : ClassRef) (f : Field) : Except Fault (List Column ⊕ Relation) := do
  let (ann, tags) := f.ann.stripTags
  let relTag := relationTagOf tags
  match relationTarget? ann, relTag with
  | some (target, toMany, nullable), _ =>
    let r := relTag.getD {}
    let rel : Relation :=
      { name := f.name, owner := c, target := target, toMany := toMany, nullable := nullable,
        declaredKind := r.kind, join := r.join, junction := r.junction, order := r.order, filter := r.filter }
    pure (Sum.inr rel)
  | none, some _ =>
    throw (.configuration (c.name ++ "." ++ f.name ++
      ": relation fields must be typed with a Table subclass or a list of them"))
  | none, none =>
    return Sum.inl (← cat.fieldColumns (cat.decls.size + 1) (snakeCase f.name) [f.name] ann tags
      (f.default.getD .none) "" false)

/-- What the fields of an entity class describe, their names resolved, in declaration order. -/
def Catalog.fieldParts (cat : Catalog) (c : ClassRef) : Except Fault (List (List Column ⊕ Relation)) := do
  let fields ← (cat.fields c.id).mapM fun f =>
    match cat.resolve f.ann with
    | .ok ann => pure { f with ann := ann }
    | .error name => throw (.configuration (c.name ++ ": cannot resolve " ++ displayString name))
  fields.mapM (cat.fieldPart c)

/-- The columns among what fields describe, in order. -/
def partColumns (parts : List (List Column ⊕ Relation)) : List Column :=
  parts.flatMap fun p => match p with
    | .inl cs => cs
    | .inr _ => []

/-- The schema of an entity class. -/
def Catalog.buildSchema (cat : Catalog) (c : ClassRef) : Except Fault TableSchema := do
  let parts ← cat.fieldParts c
  let columns := partColumns parts
  let relations := parts.filterMap fun p => match p with
    | .inr r => some r
    | .inl _ => none
  match firstDuplicate [] (columns.map (·.name)) with
  | some n => throw (.configuration (c.name ++ ": duplicate column name " ++ displayString n))
  | none => pure ()
  let aliasName := ((cat.aliasName? c.id).bind fun a => if a.isEmpty then none else some a).getD (snakeCase c.name)
  pure { cls := c, name := cat.tableNameOf c, aliasName := aliasName, columns := withDefaultKey columns,
         relations := relations }

/-- The schema of the class an annotation names, which must be an entity class. -/
def Catalog.schemaOf (cat : Catalog) (t : Ty) : Except Fault TableSchema :=
  match t with
  | .cls c => if c.sort == .table then cat.buildSchema c else throw (.configuration (t.display ++ " is not a Table subclass"))
  | _ => throw (.configuration (t.display ++ " is not a Table subclass"))

/-- The schema of an entity class. -/
def Catalog.schema (cat : Catalog) (c : ClassRef) : Except Fault TableSchema := cat.schemaOf (.cls c)

end SqlMapper
