import SqlMapper.Schema.Spec
import SqlMapper.Number.Decimal
import SqlMapper.Calendar.Basic
import SqlMapper.Fault

/-!
# Values, annotations, fragments and query plans

The data the library works on. A `Ty` is a field annotation: a builtin
class, a declared class, a name still to be resolved, a union, a generic
container or an annotation with declarations attached. A `Value` is what
fields, parameters and rows hold: scalars, containers, enum members, model
instances, annotations used as values, SQL fragments and query plans. A
`Fragment` is a piece of SQL with its arguments; a `Plan` is a query kind with
the configuration steps that build it, so that a query used as a value can be
rendered wherever it appears.
-/

namespace SqlMapper

open SqlMapper.Schema SqlMapper.Number SqlMapper.Calendar

/-- Classes that annotations name without declaring them. -/
inductive Builtin where
  | int | str | bool | float | bytes | decimal | datetime | date | time
  | dict | list | set | tuple | object | noneType
  deriving DecidableEq, Repr, Inhabited

/-- What a declared class is. -/
inductive ClassSort where
  /-- An entity mapped to a table. -/
  | table
  /-- A plain value structure. -/
  | struct
  /-- An enumeration. -/
  | enum
  /-- An empty subclass of a builtin class. -/
  | derived (base : Builtin)
  deriving DecidableEq, Repr, Inhabited

/-- A declared class: its place in the declarations, its name and its sort. -/
structure ClassRef where
  id : Nat
  name : String
  sort : ClassSort
  deriving DecidableEq, Repr, Inhabited

/-- One item of an annotation's metadata. -/
inductive Tag where
  | column (spec : ColumnSpec)
  | relation (spec : RelationSpec)
  /-- Any other item, by its display form. -/
  | note (display : String)
  deriving DecidableEq, Repr, Inhabited

/-- A field annotation. -/
inductive Ty where
  | builtin (b : Builtin)
  | any
  | cls (c : ClassRef)
  /-- A name written as a string, to be resolved. -/
  | text (name : String)
  /-- A forward reference to a name. -/
  | ref (name : String)
  /-- A union written with `Union` or `Optional`. -/
  | union (args : List Ty)
  /-- A union written with `|`. -/
  | pipe (args : List Ty)
  /-- A parameterized container class. -/
  | generic (origin : Builtin) (args : List Ty)
  /-- A tuple of any length of one element type. -/
  | tupleOf (elem : Ty)
  | annotated (base : Ty) (tags : List Tag)
  /-- An object that is no class used as an annotation, by the name of its
  class and its text form. -/
  | object (className display : String)
  deriving Repr, Inhabited

mutual

/-- Whether two annotations are the same, constructor by constructor. -/
def Ty.beq : Ty → Ty → Bool
  | .builtin a, .builtin b => a == b
  | .any, .any => true
  | .cls a, .cls b => a == b
  | .text a, .text b => a == b
  | .ref a, .ref b => a == b
  | .union xs, .union ys => Ty.beqList xs ys
  | .pipe xs, .pipe ys => Ty.beqList xs ys
  | .generic o xs, .generic p ys => o == p && Ty.beqList xs ys
  | .tupleOf a, .tupleOf b => Ty.beq a b
  | .annotated a ts, .annotated b us => Ty.beq a b && ts == us
  | .object c d, .object e f => c == e && d == f
  | _, _ => false

/-- Whether two lists of annotations are the same, item by item. -/
def Ty.beqList : List Ty → List Ty → Bool
  | [], [] => true
  | x :: xs, y :: ys => Ty.beq x y && Ty.beqList xs ys
  | _, _ => false

end

instance : BEq Ty := ⟨Ty.beq⟩

/-- The kinds of query builder. -/
inductive QueryKind where
  | select | insert | update | delete | createTable | dropTable
  deriving DecidableEq, Repr, Inhabited

mutual

/-- A value. -/
inductive Value where
  | none
  | bool (b : Bool)
  | int (n : Int)
  | float (x : Float)
  | str (s : String)
  | bytes (bs : List UInt8)
  | decimal (d : Decimal)
  | datetime (t : DateTime)
  | date (d : Date)
  | time (t : TimeOfDay)
  | tuple (items : List Value)
  | list (items : List Value)
  /-- A set, its distinct items in the order they were added. -/
  | set (items : List Value)
  | dict (entries : List (Value × Value))
  /-- A member of an enumeration, with its value. -/
  | member (cls : ClassRef) (name : String) (value : Value)
  /-- An instance of a declared model; a field never set has no value. -/
  | object (cls : ClassRef) (fields : List (String × Option Value))
  /-- An annotation used as a value. -/
  | type (t : Ty)
  | fragment (f : Fragment)
  | query (plan : Plan)
  /-- The database that the request's queries are bound to. -/
  | database

/-- A piece of SQL. -/
inductive Fragment where
  /-- An identifier, quoted by the dialect. -/
  | ident (name : String)
  /-- Trusted SQL text. -/
  | safe (sql : String)
  /-- A column qualified by an alias, the bound table's by default. -/
  | column (name : String) (aliasName : Option String)
  /-- A comma-separated list of values. -/
  | within (items : List Value)
  /-- A template with its arguments and the separator written before it. -/
  | template (text : String) (args : List Value) (sep : String)
  /-- Conditions in parentheses, each joined by its own separator. -/
  | group (conditions : List Fragment) (sep : String)
  /-- The base fragment, which writes nothing of its own. -/
  | base

/-- One configuration step of a query. -/
inductive Step where
  | call (method : String) (args : List Value)
  /-- Conditions added by the steps, as one group joined by `sep`. -/
  | group (sep : Value) (steps : List Step)
  /-- Steps applied to the query itself. -/
  | apply (steps : List Step)
  /-- A relation to load, with the steps that shape its query. -/
  | relation (args : List Value) (steps : Option (List Step))
  /-- A step whose arguments could not be read; applying it fails. -/
  | broken (fault : Fault)

/-- A query as the steps that build it. -/
inductive Plan where
  | mk (kind : QueryKind) (steps : List Step)

end

instance : Inhabited Value := ⟨.none⟩
instance : Inhabited Fragment := ⟨.base⟩

/-- Whether a value is `None`. -/
def Value.isNone : Value → Bool
  | .none => true
  | _ => false

end SqlMapper
