import SqlMapper.Value.Basic
import SqlMapper.Text.Display

/-!
# Annotations: forming, unwrapping and display

Unions are kept in a normal form: nested unions are flattened, repeated
members dropped, names written as strings become forward references, and a
union of one member is that member. Annotations attached to an annotation
merge into one list, the inner ones first.

An annotation's *base* is what it stores, with metadata removed: a union with
`None` makes it nullable, a union of several other members has no single base
(`any`), and a generic container's base is its container class with the
parameters as arguments.

The display form of an annotation is the one the typing library prints:
`<class 'int'>`, `typing.Optional[int]`, `list[models.Book]`, `int | None`.
-/

namespace SqlMapper

open SqlMapper.Text

namespace Builtin

/-- The name that type specifications and answers use for a builtin class. -/
def specName : Builtin → String
  | .int => "int" | .str => "str" | .bool => "bool" | .float => "float" | .bytes => "bytes"
  | .decimal => "decimal" | .datetime => "datetime" | .date => "date" | .time => "time"
  | .dict => "dict" | .list => "list" | .set => "set" | .tuple => "tuple"
  | .object => "object" | .noneType => "none"

/-- All builtin classes. -/
def all : List Builtin :=
  [.int, .str, .bool, .float, .bytes, .decimal, .datetime, .date, .time, .dict, .list, .set, .tuple,
    .object, .noneType]

/-- The qualified name of a builtin class, without the module of builtins. -/
def qualName : Builtin → String
  | .decimal => "decimal.Decimal"
  | .datetime => "datetime.datetime"
  | .date => "datetime.date"
  | .time => "datetime.time"
  | .noneType => "NoneType"
  | b => b.specName

/-- Container classes: those a generic annotation parameterizes. -/
def isContainer : Builtin → Bool
  | .dict | .list | .set | .tuple => true
  | _ => false

end Builtin

/-- The module that declared classes live in. -/
def declaredModule : String := "models"

/-- The qualified name of a declared class. -/
def ClassRef.qualName (c : ClassRef) : String := declaredModule ++ "." ++ c.name

/-- Display form of a declared class. -/
def ClassRef.display (c : ClassRef) : String :=
  match c.sort with
  | .enum => "<enum " ++ displayString c.name ++ ">"
  | _ => "<class " ++ displayString c.qualName ++ ">"

/-- An argument of a base annotation: an annotation, or the ellipsis of `tuple[T, ...]`. -/
inductive TyArg where
  | ty (t : Ty)
  | ellipsis
  deriving BEq, Repr, Inhabited

/-- What `get`-ting the base of an annotation gives: the base, its arguments and
whether `None` is allowed. -/
structure BaseType where
  base : Ty
  args : List TyArg
  nullable : Bool
  deriving BEq, Repr, Inhabited

namespace Ty

/-- The `None` class as an annotation. -/
def none : Ty := .builtin .noneType

/-- Members of a union: nested unions are opened, strings become references. -/
def unionMembers : List Ty → List Ty
  | [] => []
  | .union xs :: rest => unionMembers xs ++ unionMembers rest
  | .pipe xs :: rest => unionMembers xs ++ unionMembers rest
  | .text s :: rest => .ref s :: unionMembers rest
  | t :: rest => t :: unionMembers rest

/-- Distinct members in the order of their first appearance. -/
def dedupe (xs : List Ty) : List Ty :=
  xs.foldl (fun acc t => if acc.contains t then acc else acc ++ [t]) []

/-- The union of annotations in normal form. -/
def mkUnion (args : List Ty) : Ty :=
  match dedupe (unionMembers args) with
  | [t] => t
  | ts => .union ts

/-- An optional annotation: the union with `None`. -/
def mkOptional (t : Ty) : Ty := mkUnion [t, none]

/-- Whether `|` on this annotation forms a plain union of classes. -/
def formsPipe : Ty → Bool
  | .builtin _ | .any | .cls _ | .generic .. | .tupleOf _ | .pipe _ => true
  | _ => false

/-- Members of a `|` union: nested ones are opened. -/
def pipeMembers : List Ty → List Ty
  | [] => []
  | .pipe xs :: rest => pipeMembers xs ++ pipeMembers rest
  | t :: rest => t :: pipeMembers rest

/-- The `|` union of annotations: a plain union of classes when every member forms
one, the typing union otherwise. -/
def mkPipe (args : List Ty) : Ty :=
  if args.all formsPipe then
    match dedupe (pipeMembers args) with
    | [t] => t
    | ts => .pipe ts
  else mkUnion args

/-- An annotation with metadata: annotations on annotations merge, inner first. -/
def mkAnnotated (t : Ty) (tags : List Tag) : Ty :=
  match t with
  | .annotated inner innerTags => .annotated inner (innerTags ++ tags)
  | .text s => .annotated (.ref s) tags
  | _ => .annotated t tags

/-- An annotation without its outer metadata, and that metadata. -/
def stripTags : Ty → Ty × List Tag
  | .annotated t tags =>
    let (inner, more) := stripTags t
    (inner, tags ++ more)
  | t => (t, [])

/-- The members of a union annotation, if it is one. -/
def unionArgs? : Ty → Option (List Ty)
  | .union xs | .pipe xs => some xs
  | _ => Option.none

/-- The origin of a typing union, `typing.Union`: no class, an object of the typing library. -/
def unionOrigin : Ty := .object "_SpecialForm" "typing.Union"

/-- The origin of a `|` union, the class `types.UnionType`. -/
def pipeOrigin : Ty := .object "type" "<class 'types.UnionType'>"

/-- The base of an annotation once its outer union is opened: a generic annotation
gives its origin and its parameters, a union too (one that stood under an outer
union and metadata). -/
def plainBase (t : Ty) (nullable : Bool) : BaseType :=
  match t with
  | .any => ⟨.any, [], true⟩
  | .generic origin args => ⟨.builtin origin, args.map .ty, nullable⟩
  | .tupleOf elem => ⟨.builtin .tuple, [.ty elem, .ellipsis], nullable⟩
  | .union args => ⟨unionOrigin, args.map .ty, nullable⟩
  | .pipe args => ⟨pipeOrigin, args.map .ty, nullable⟩
  | t => ⟨t, [], nullable⟩

/-- The base of a union's members: `None` among them makes it nullable, the one
other member gives its own base with its metadata removed, and several give `any`. -/
def membersBase (members : List Ty) : BaseType :=
  let rest := members.filter (· != none)
  let nullable := rest.length < members.length
  match rest with
  | [one] => plainBase (stripTags one).1 nullable
  | _ => ⟨.any, rest.map .ty, nullable⟩

/-- The base of an annotation: metadata removed, `None` making it nullable, a
union of several members having base `any`. -/
def baseType (ann : Ty) : BaseType :=
  let t := (stripTags ann).1
  match unionArgs? t with
  | some members => membersBase members
  | Option.none => plainBase t false

/-- The base class of an annotation. -/
def base (ann : Ty) : Ty := (baseType ann).base

/-- Whether an annotation allows `None`. -/
def nullable (ann : Ty) : Bool := (baseType ann).nullable

/-- Whether an annotation is a table entity class. -/
def isTable : Ty → Bool
  | .cls c => c.sort == .table
  | _ => false

/-- Whether an annotation is a plain value structure class. -/
def isStructure : Ty → Bool
  | .cls c => c.sort == .struct
  | _ => false

/-- Whether an annotation is a model class, entity or structure. -/
def isModel : Ty → Bool
  | .cls c => c.sort == .table || c.sort == .struct
  | _ => false

mutual

/-- Whether an annotation names an empty subclass of a builtin class anywhere in it. -/
def namesDerived : Ty → Bool
  | .cls c => match c.sort with
    | .derived _ => true
    | _ => false
  | .union args | .pipe args | .generic _ args => anyNamesDerived args
  | .tupleOf t | .annotated t _ => t.namesDerived
  | _ => false

/-- Whether any of some annotations names an empty subclass of a builtin class. -/
def anyNamesDerived : List Ty → Bool
  | [] => false
  | t :: rest => t.namesDerived || anyNamesDerived rest

end

end Ty

/-- Display form of one metadata item. -/
def Tag.display : Tag → String
  | .column c =>
    "ColumnTag(name=" ++ (c.name.map displayString).getD "None" ++ ", pk=" ++ pyBool c.pk ++
      ", autoincrement=" ++ pyBool c.autoincrement ++ ", soft_delete=" ++ pyBool c.softDelete ++
      ", json=" ++ pyBool c.json ++ ", embed=" ++ pyBool c.embed ++ ", unique=" ++ pyBool c.unique ++
      ", nullzero=" ++ pyBool c.nullzero ++ ", type=" ++ (c.sqlType.map displayString).getD "None" ++
      ", extra=" ++ extraDisplay c.extra ++ ")"
  | .relation r =>
    "RelationTag(kind=" ++ (r.kind.map fun k => displayString k.name).getD "None" ++ ", join=" ++
      joinDisplay r.join ++ ", m2m=" ++ (r.junction.map displayString).getD "None" ++ ", order=" ++
      (r.order.map displayString).getD "None" ++ ", where=" ++ (r.filter.map displayString).getD "None" ++
      ", extra=" ++ extraDisplay r.extra ++ ")"
  | .note d => d
where
  pyBool (b : Bool) : String := if b then "True" else "False"
  tupleDisplay (items : List String) : String :=
    match items with
    | [] => "()"
    | [x] => "(" ++ x ++ ",)"
    | xs => "(" ++ ", ".intercalate xs ++ ")"
  extraDisplay (xs : List (String × String)) : String :=
    tupleDisplay (xs.map fun (k, v) => "(" ++ displayString k ++ ", " ++ v ++ ")")
  joinDisplay (xs : List (String × String)) : String :=
    tupleDisplay (xs.map fun (a, b) => "(" ++ displayString a ++ ", " ++ displayString b ++ ")")

mutual

/-- Text of an annotation; `top` when it stands alone, where classes show as
`<class '…'>`, and inside another annotation, where they show by qualified name. -/
def Ty.render (top : Bool) : Ty → String
  | .builtin b => if top then "<class " ++ displayString b.qualName ++ ">" else b.qualName
  | .cls c => if top then c.display else c.qualName
  | .any => "typing.Any"
  | .text s => displayString s
  | .ref s => "ForwardRef(" ++ displayString s ++ ")"
  | .union args => Ty.unionText args
  | .pipe args => Ty.pipeList args
  | .generic origin args => origin.qualName ++ "[" ++ Ty.renderList args ++ "]"
  | .tupleOf elem => "tuple[" ++ Ty.render false elem ++ ", ...]"
  | .annotated t tags =>
    "typing.Annotated[" ++ Ty.render false t ++ ", " ++ ", ".intercalate (tags.map Tag.display) ++ "]"
  | .object _ d => d

/-- Text of a typing union: `Optional` for a union of one class with `None`. -/
def Ty.unionText : List Ty → String
  | [a, .builtin .noneType] => "typing.Optional[" ++ Ty.render false a ++ "]"
  | [.builtin .noneType, a] => "typing.Optional[" ++ Ty.render false a ++ "]"
  | args => "typing.Union[" ++ Ty.renderList args ++ "]"

/-- Comma-separated texts of annotations inside another. -/
def Ty.renderList : List Ty → String
  | [] => ""
  | [t] => Ty.render false t
  | t :: rest => Ty.render false t ++ ", " ++ Ty.renderList rest

/-- Members of a `|` union, `None` written as such. -/
def Ty.pipeList : List Ty → String
  | [] => ""
  | [t] => Ty.pipeItem t
  | t :: rest => Ty.pipeItem t ++ " | " ++ Ty.pipeList rest

/-- One member of a `|` union. -/
def Ty.pipeItem : Ty → String
  | .builtin .noneType => "None"
  | .builtin b => b.qualName
  | .cls c => c.qualName
  | .pipe args => Ty.pipeList args
  | .generic origin args => origin.qualName ++ "[" ++ Ty.renderList args ++ "]"
  | .tupleOf elem => "tuple[" ++ Ty.render false elem ++ ", ...]"
  | .any => "typing.Any"
  | .text s => displayString s
  | .ref s => "ForwardRef(" ++ displayString s ++ ")"
  | .union args => Ty.unionText args
  | .annotated t tags =>
    "typing.Annotated[" ++ Ty.render false t ++ ", " ++ ", ".intercalate (tags.map Tag.display) ++ "]"
  | .object _ d => d

end

/-- Display form of an annotation, as it stands alone. -/
def Ty.display (t : Ty) : String := t.render true

end SqlMapper
