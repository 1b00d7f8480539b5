import SqlMapper.Schema.ColumnValue
import SqlMapper.Schema.Relation
import SqlMapper.Model.Zero

/-!
# Row plans: how result columns populate a model

A row plan routes the columns of a result, by name and case ignored, to the
fields of one model class. A name that is a column of the class feeds that
column; a name `attr__rest` feeds, through `rest`, the plan of the class that
`attr` holds: the target of a relation to one row of an entity class, or a
structure stored in one column. A name that reaches no column is refused.

A row becomes an instance built without validation: each routed column's
value read back into its class, the columns of an embedded structure
gathered into an instance of it, each nested plan's instance, and the
defaults for everything else. An embedded structure or a nested instance
whose field allows `None` is `None` when all of its columns are.
-/

namespace SqlMapper

open SqlMapper.Schema SqlMapper.Text

/-- A class that result columns named `attr__col` feed. -/
structure NestedTarget where
  /-- The lowercase name the columns start with. -/
  key : String
  attr : String
  target : Ty
  nullable : Bool
  deriving Inhabited

/-- How the columns of a result populate one model class. -/
structure RowPlan where
  cls : ClassRef
  columns : List Column
  nested : List NestedTarget
  /-- The class's own columns, each with the index of the result column that feeds it. -/
  assignments : List (Nat × Column) := []
  /-- Nested plans by attribute, with whether the attribute allows `None`. -/
  children : List (String × Bool × RowPlan) := []
  deriving Inhabited

/-- Column values gathered by attribute path. -/
inductive Tree where
  | leaf (v : Value)
  | node (entries : List (String × Tree))
  deriving Inhabited

namespace Catalog

/-- The columns of a plain structure's fields. -/
def structureColumns (cat : Catalog) (c : ClassRef) : Except Fault (List Column) := do
  let cols ← (cat.fields c.id).mapM fun f =>
    let (ann, tags) := f.ann.stripTags
    cat.fieldColumns (cat.decls.size + 1) (snakeCase f.name) [f.name] ann tags (f.default.getD .none) "" false
  pure cols.flatten

/-- The instance of a model class holding the given attribute values and the
defaults of the other fields. -/
def constructWith (cat : Catalog) (c : ClassRef) (given : List (String × Value)) : Value :=
  .object c ((cat.fields c.id).map fun f => (f.name, ((given.lookup f.name).map some).getD f.default))

/-- The field of a model class by name. -/
def field? (cat : Catalog) (c : ClassRef) (name : String) : Option Field :=
  (cat.fields c.id).find? (·.name == name)

/-- Whether a field of a model class allows `None`. -/
def fieldNullable (cat : Catalog) (c : ClassRef) (name : String) : Bool :=
  ((cat.field? c name).map fun f => f.ann.nullable).getD false

/-- The base class of a field of a model class. -/
def fieldBase (cat : Catalog) (c : ClassRef) (name : String) : Ty :=
  ((cat.field? c name).map fun f => f.ann.base).getD .any

end Catalog

/-- Sets the value of a key, keeping its place when it is already there. -/
def setKey {α : Type} (entries : List (String × α)) (key : String) (x : α) : List (String × α) :=
  if entries.any (·.1 == key) then entries.map fun e => if e.1 == key then (key, x) else e
  else entries ++ [(key, x)]

namespace Tree

/-- Puts a value at an attribute path among entries. -/
def insertAt (entries : List (String × Tree)) : List String → Value → List (String × Tree)
  | [], _ => entries
  | [a], v => setKey entries a (.leaf v)
  | a :: more, v =>
    let inner := match entries.lookup a with
      | some (.node es) => es
      | _ => []
    setKey entries a (.node (insertAt inner more v))

mutual

/-- Whether every value gathered in a tree is `None`. -/
def allNone : Tree → Bool
  | .leaf v => (v matches .none)
  | .node es => entriesAllNone es

/-- Whether every value gathered in entries is `None`. -/
def entriesAllNone : List (String × Tree) → Bool
  | [] => true
  | (_, t) :: rest => allNone t && entriesAllNone rest

end

mutual

/-- The value of a tree: a leaf's value, or an instance of the class `t` of
the gathered attributes. -/
def build (cat : Catalog) (t : Ty) : Tree → Value
  | .leaf v => v
  | .node es =>
    match t with
    | .cls c => cat.constructWith c (buildEntries cat c es)
    | _ => .none

/-- The attribute values of entries gathered for the class `c`. -/
def buildEntries (cat : Catalog) (c : ClassRef) : List (String × Tree) → List (String × Value)
  | [] => []
  | (a, .leaf v) :: rest => (a, v) :: buildEntries cat c rest
  | (a, .node es) :: rest =>
    let v := if cat.fieldNullable c a && entriesAllNone es then .none else build cat (cat.fieldBase c a) (.node es)
    (a, v) :: buildEntries cat c rest

end

end Tree

namespace RowPlan

/-- The plan of a model class, before any column is routed. -/
def new (cat : Catalog) (t : Ty) : Except Fault RowPlan := do
  let .cls c := t | throw (.mapping ("cannot plan rows for " ++ t.display))
  let (columns, related) ← if c.sort == .table then do
      let s ← cat.schema c
      let rels ← (s.relations.filter (!·.toMany)).mapM fun r => do
        return ({ key := lower r.name, attr := r.name, target := ← r.targetClass cat, nullable := r.nullable } :
          NestedTarget)
      -- relations keyed by lowercase name: a later one takes the key of an earlier one
      let keyed := rels.foldl (fun acc n =>
        if acc.any (·.key == n.key) then acc.map fun m => if m.key == n.key then n else m else acc ++ [n]) []
      pure (s.columns, keyed)
    else pure (← cat.structureColumns c, [])
  let stored := (columns.filter fun col => col.path.length == 1 && col.base.isStructure).map fun col =>
    ({ key := lower col.name, attr := col.path.head?.getD col.name, target := col.base, nullable := col.nullable } :
      NestedTarget)
  let nested := stored.foldl (fun acc n => if acc.any (·.key == n.key) then acc else acc ++ [n]) related
  pure { cls := c, columns := columns, nested := nested }

/-- The characters before and after the first `__`, if there is one. -/
def splitAtNested : List Char → Option (List Char × List Char)
  | [] => none
  | '_' :: '_' :: rest => some ([], rest)
  | c :: rest => (splitAtNested rest).map fun (before, after) => (c :: before, after)

/-- The text before and after the first `__` of a name, if it has one. -/
def splitNested (key : String) : Option (String × String) :=
  (splitAtNested key.toList).map fun (before, after) => (String.ofList before, String.ofList after)

/-- Routes the result column `name` at `index`; none when no field takes it.
`fuel` bounds the nesting of plans the name passes through. -/
def add (cat : Catalog) : Nat → RowPlan → Nat → String → Except Fault (Option RowPlan)
  | 0, _, _, _ => pure none
  | fuel + 1, plan, index, name => do
    let key := lower name
    match (plan.columns.filter fun col => lower col.name == key).getLast? with
    | some col => pure (some { plan with assignments := plan.assignments ++ [(index, col)] })
    | none =>
      let some (pre, rest) := splitNested key | pure none
      let some n := plan.nested.find? (·.key == pre) | pure none
      let child ← match plan.children.lookup n.attr with
        | some (_, c) => pure c
        | none => RowPlan.new cat n.target
      match ← add cat fuel child index rest with
      | some child => pure (some { plan with children := setKey plan.children n.attr (n.nullable, child) })
      | none => pure none

/-- The plan of a model class for result columns. When `strict`, some field
must take each of them; otherwise a column no field takes is left unread. -/
def build (cat : Catalog) (t : Ty) (names : List String) (strict : Bool := true) : Except Fault RowPlan := do
  let mut plan ← RowPlan.new cat t
  for (name, i) in names.zipIdx do
    match ← plan.add cat (name.length + 1) i name with
    | some p => plan := p
    | none =>
      if strict then throw (.mapping (plan.cls.name ++ " does not have column " ++ displayString name))
  pure plan

/-- The result column indexes a plan and its nested plans read. -/
def indexes : RowPlan → List Nat
  | ⟨_, _, _, assignments, children⟩ => assignments.map (·.1) ++ childIndexes children
where
  childIndexes : List (String × Bool × RowPlan) → List Nat
    | [] => []
    | (_, _, c) :: rest => c.indexes ++ childIndexes rest

/-- The value of a row at an index; a row is a tuple, which has no value
past its end. -/
def cell (row : List Value) (i : Nat) : Except Fault Value :=
  match row[i]? with
  | some v => pure v
  | none => throw (.outOfRange "tuple index out of range")

mutual

/-- The attribute values a plan reads from a row. -/
def valuesOf (cat : Catalog) (row : List Value) : RowPlan → Except Fault (List (String × Value))
  | ⟨cls, _, _, assignments, children⟩ => do
    let mut gathered : List (String × Tree) := []
    for (i, col) in assignments do
      let v ← col.parse cat (← cell row i)
      gathered := Tree.insertAt gathered col.path v
    let own := Tree.buildEntries cat cls gathered
    let kids ← childValues cat row children
    pure (kids.foldl (fun acc (a, v) => setKey acc a v) own)

/-- The values of nested plans by attribute: `None` for an attribute that allows
it when all the plan's columns are `None`. -/
def childValues (cat : Catalog) (row : List Value) : List (String × Bool × RowPlan) → Except Fault (List (String × Value))
  | [] => pure []
  | (a, nullable, child) :: rest => do
    let cells ← if nullable then child.indexes.mapM (cell row) else pure []
    let v ← if nullable && cells.all Value.isNone then pure .none
      else do
        let vs ← valuesOf cat row child
        pure (cat.constructWith child.cls vs)
    return (a, v) :: (← childValues cat row rest)

end

/-- The instance a plan builds from a row. -/
def create (cat : Catalog) (plan : RowPlan) (row : List Value) : Except Fault Value :=
  return cat.constructWith plan.cls (← plan.valuesOf cat row)

/-- An instance with the attribute values a plan reads from a row. -/
def fill (cat : Catalog) (plan : RowPlan) (inst : Value) (row : List Value) : Except Fault Value := do
  let vs ← plan.valuesOf cat row
  match inst with
  | .object c fields => pure (.object c (fields.map fun (n, v) => (n, ((vs.lookup n).map some).getD v)))
  | _ => throw .invalid

end RowPlan

end SqlMapper
