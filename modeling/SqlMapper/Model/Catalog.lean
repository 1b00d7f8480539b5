import SqlMapper.Value.Annotation

/-!
# Declared classes

The classes a request declares, in the order it declares them: entity classes
mapped to tables, plain structures, enumerations and empty subclasses of
builtin classes. A model class may extend an earlier one; it then has the
parent's fields first, and a field declared again keeps its place and takes its
new annotation and default.

Entity classes are found by name in subclass order: the direct subclasses of
the entity base in declaration order, each followed by its own subclasses in
the same way. Of several classes of one name, the last in that order wins.
-/

namespace SqlMapper

/-- A field of a model class. -/
structure Field where
  name : String
  ann : Ty
  /-- The default, kept as given; a field without one is required. -/
  default : Option Value
  deriving Inhabited

/-- One thing a hook does when it runs. -/
inductive HookAction where
  /-- Set an attribute of the instance the hook runs on. -/
  | assign (attr : String) (value : Value)
  /-- Apply builder steps to the running query. -/
  | steps (steps : List Step)
  /-- Stop the operation with a runtime error. -/
  | fail (message : String)
  deriving Inhabited

/-- The declaration of a model class. -/
structure ModelDecl where
  tableName : Option String
  aliasName : Option String
  /-- The class this one extends, by its place in the catalog. -/
  parent : Option Nat
  /-- Fields declared by this class itself. -/
  fields : List Field
  /-- Hooks by name, with what each does. -/
  hooks : List (String × List HookAction)
  deriving Inhabited

/-- What a class declaration holds. -/
inductive ClassBody where
  | model (decl : ModelDecl)
  /-- Members of an enumeration by name, with their values. -/
  | enum (members : List (String × Value))
  | derived
  deriving Inhabited

/-- A declared class. -/
structure ClassDecl where
  ref : ClassRef
  body : ClassBody
  deriving Inhabited

/-- The classes of a request, each at the place of its declaration. -/
structure Catalog where
  decls : Array ClassDecl
  deriving Inhabited

namespace Catalog

/-- The catalog without classes. -/
def empty : Catalog := ⟨#[]⟩

/-- Declares a class, giving the catalog with it and its reference. -/
def declare (cat : Catalog) (name : String) (sort : ClassSort) (body : ClassBody) : Catalog × ClassRef :=
  let ref : ClassRef := ⟨cat.decls.size, name, sort⟩
  (⟨cat.decls.push ⟨ref, body⟩⟩, ref)

/-- The declaration of a class. -/
def get? (cat : Catalog) (id : Nat) : Option ClassDecl := cat.decls[id]?

/-- The model declaration of a class, if it is a model. -/
def model? (cat : Catalog) (id : Nat) : Option ModelDecl :=
  match cat.get? id with
  | some ⟨_, .model m⟩ => some m
  | _ => none

/-- The class declared last under a name. -/
def latest? (cat : Catalog) (name : String) : Option ClassRef :=
  (cat.decls.toList.filter (·.ref.name == name)).getLast?.map (·.ref)

/-- The enumeration declared last under a name. -/
def enum? (cat : Catalog) (name : String) : Option ClassRef :=
  (cat.decls.toList.filter fun d => d.ref.name == name && d.ref.sort == .enum).getLast?.map (·.ref)

/-- Members of an enumeration. -/
def members (cat : Catalog) (id : Nat) : List (String × Value) :=
  match cat.get? id with
  | some ⟨_, .enum ms⟩ => ms
  | _ => []

/-- Places a field in a list of fields: in the place of one of its name, else at the end. -/
def placeField (fields : List Field) (f : Field) : List Field :=
  if fields.any (·.name == f.name) then fields.map fun g => if g.name == f.name then f else g
  else fields ++ [f]

/-- All fields of a model class, those of its ancestors first. -/
def fields (cat : Catalog) (id : Nat) : List Field :=
  match cat.model? id with
  | none => []
  | some m =>
    let inherited := match m.parent with
      | some p => if p < id then fields cat p else []
      | none => []
    m.fields.foldl placeField inherited
termination_by id

/-- The chain of a class and its ancestors, the class first. -/
def lineage (cat : Catalog) (id : Nat) : List Nat :=
  match cat.model? id with
  | some ⟨_, _, some p, _, _⟩ => if p < id then id :: lineage cat p else [id]
  | _ => [id]
termination_by id

/-- The direct subclasses of a class, or of the entity base for `none`, in declaration order. -/
def children (cat : Catalog) (parent : Option Nat) : List ClassRef :=
  (cat.decls.toList.filter fun d =>
    d.ref.sort == .table &&
      match d.body with
      | .model m => m.parent == parent
      | _ => false).map (·.ref)

/-- Entity classes below `parent` in subclass order, `fuel` levels deep. -/
def descendants (cat : Catalog) : Nat → Option Nat → List ClassRef
  | 0, _ => []
  | fuel + 1, parent =>
    (cat.children parent).flatMap fun c => c :: descendants cat fuel (some c.id)

/-- All entity classes in subclass order. -/
def tables (cat : Catalog) : List ClassRef := cat.descendants (cat.decls.size + 1) none

/-- The entity class of a name: the last of that name in subclass order. -/
def table? (cat : Catalog) (name : String) : Option ClassRef :=
  (cat.tables.filter (·.name == name)).getLast?

/-- The hook of a name on a model class or its nearest ancestor that has it. -/
def hook? (cat : Catalog) (id : Nat) (name : String) : Option (List HookAction) :=
  (cat.lineage id).findSome? fun c => (cat.model? c).bind fun m => m.hooks.lookup name

/-- The table name a model class declares itself. -/
def tableName? (cat : Catalog) (id : Nat) : Option String := (cat.model? id).bind (·.tableName)

/-- The alias a model class declares itself. -/
def aliasName? (cat : Catalog) (id : Nat) : Option String := (cat.model? id).bind (·.aliasName)

end Catalog

end SqlMapper
