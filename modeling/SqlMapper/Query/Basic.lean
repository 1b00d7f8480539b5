import SqlMapper.Schema.Relation
import SqlMapper.Value.Equal

/-!
# Queries under construction

A query is what its configuration calls have set so far: the database it
runs on, the bound model and its table, common table expressions, extra
tables, conditions, and the clauses of its kind: a select's columns, joins,
grouping, order and paging; an insert's columns, values and conflict clause;
an update's assignments; a delete's choice between marking rows deleted and
removing them; the options of creating and dropping tables.

The first configuration problem found is kept in the query's fault slot;
later calls change nothing, and writing the query reports that fault.

A model is bound as a class, as the list type of a class, as an instance or
as a list of instances; the class of the model decides the table.
-/

namespace SqlMapper

open SqlMapper.Schema

/-- Which rows of a table with a soft-delete column a query sees. -/
inductive Visibility where
  /-- Only rows not marked deleted. -/
  | live
  /-- Only rows marked deleted. -/
  | deletedOnly
  /-- All rows. -/
  | withDeleted
  deriving DecidableEq, Repr, Inhabited

/-- A relation loaded with a select's rows: joined when it links to one row,
loaded by a follow-up query when it links to many. -/
structure Join where
  relation : Relation
  /-- The related table. -/
  target : TableSchema
  /-- The alias of the joined table: the relation's name, prefixed by the
  aliases of the relations it is reached through. -/
  aliasName : String
  /-- The alias of the table the relation starts from. -/
  baseAlias : String
  /-- Calls that shape the query of the related table. -/
  shape : Option (List Step) := none
  /-- The joined columns, when restricted. -/
  columns : Option (List String) := none
  /-- Relations loaded through this one. -/
  children : List Join := []
  deriving Inhabited

/-- An explicit join with its conditions. -/
structure JoinClause where
  join : Fragment
  on : List Fragment := []
  deriving Inhabited

/-- The clauses of a select. -/
structure SelectClauses where
  distinct : Bool := false
  distinctOn : List Fragment := []
  /-- The selected columns; every column of the model when not given. -/
  columns : Option (List Fragment) := none
  joins : List JoinClause := []
  relations : List Join := []
  groups : List Fragment := []
  havings : List Fragment := []
  orders : List Fragment := []
  limit : Int := 0
  offset : Int := 0
  lock : Option Fragment := none
  /-- Set operations with their operator text and the query they combine with. -/
  setOps : List (String × Value) := []
  deriving Inhabited

/-- Sets the entry of a key, keeping its place when it is already there. -/
def setEntry {α : Type} (entries : List (Value × α)) (key : Value) (x : α) : List (Value × α) :=
  if entries.any (fun e => Value.same e.1 key) then
    entries.map fun e => if Value.same e.1 key then (e.1, x) else e
  else entries ++ [(key, x)]

/-- Entries whose keys are pairwise different values: no key equals an earlier one. -/
def DistinctKeys {α : Type} (entries : List (Value × α)) : Prop :=
  entries.Pairwise fun a b => Value.same a.1 b.1 = false

/-- Setting the entry of a key keeps the keys different: an entry of an equal key only changes
its value, and a new key equals none before it. -/
theorem DistinctKeys.setEntry {α : Type} {entries : List (Value × α)} (distinct : DistinctKeys entries)
    (key : Value) (x : α) : DistinctKeys (setEntry entries key x) := by
  unfold SqlMapper.setEntry DistinctKeys
  split
  · rw [List.pairwise_map]
    refine distinct.imp fun {a b} differ => ?_
    split <;> split <;> exact differ
  · rename_i absent
    rw [List.pairwise_append]
    refine ⟨distinct, List.pairwise_singleton _ _, fun a mem b single => ?_⟩
    rw [List.mem_singleton] at single
    subst single
    simpa using List.any_eq_false.1 (Bool.eq_false_iff.2 absent) a mem

/-- Expressions given for column names, at most one for each name. -/
structure Given where
  entries : List (Value × Fragment)
  distinct : DistinctKeys entries

/-- No expression given. -/
def Given.empty : Given := ⟨[], List.Pairwise.nil⟩

/-- Gives an expression for a name, in the place of the one given for an equal name. -/
def Given.set (g : Given) (key : Value) (f : Fragment) : Given :=
  ⟨setEntry g.entries key f, g.distinct.setEntry key f⟩

instance : Inhabited Given := ⟨.empty⟩

/-- The clauses of an insert. -/
structure InsertClauses where
  /-- The inserted model columns, by name, when restricted. -/
  columns : Option (List Value) := none
  /-- Expressions that replace or add the value of a column in every row. -/
  values : Given := .empty
  conflict : Option Fragment := none
  sets : List Fragment := []
  ignore : Bool := false
  deriving Inhabited

/-- The clauses of an update. -/
structure UpdateClauses where
  /-- The assigned model columns, by name, when restricted. -/
  columns : Option (List Value) := none
  sets : List Fragment := []
  /-- Expressions assigned to columns instead of the model's values. -/
  values : Given := .empty
  omitZero : Bool := false
  deriving Inhabited

/-- The options of creating a table. -/
structure CreateClauses where
  ifNotExists : Bool := false
  foreignKeys : List Fragment := []
  withForeignKeys : Bool := false
  deriving Inhabited

/-- The options of dropping tables. -/
structure DropClauses where
  ifExists : Bool := false
  cascade : Bool := false
  deriving Inhabited

/-- The clauses of each kind of query. -/
inductive Clauses where
  | select (c : SelectClauses)
  | insert (c : InsertClauses)
  | update (c : UpdateClauses)
  /-- A delete, `force` when rows are removed even where they could be marked deleted. -/
  | delete (force : Bool)
  | createTable (c : CreateClauses)
  | dropTable (c : DropClauses)
  deriving Inhabited

/-- A query under construction. -/
structure Query where
  /-- Whether the query is bound to the database. -/
  bound : Bool := true
  model : Option Value := none
  schema : Option TableSchema := none
  /-- Common table expressions by name. -/
  ctes : List (String × Value) := []
  tables : List Fragment := []
  /-- What replaces the bound table and its alias in the tables. -/
  customTable : Option Fragment := none
  wheres : List Fragment := []
  wherePk : Bool := false
  visibility : Visibility := .live
  returning : List Fragment := []
  /-- The first configuration problem found. -/
  fault : Option Fault := none
  clauses : Clauses
  deriving Inhabited

namespace Clauses

/-- The clauses of a new query of a kind. -/
def empty : QueryKind → Clauses
  | .select => .select {}
  | .insert => .insert {}
  | .update => .update {}
  | .delete => .delete false
  | .createTable => .createTable {}
  | .dropTable => .dropTable {}

/-- The kind of query the clauses belong to. -/
def kind : Clauses → QueryKind
  | .select _ => .select
  | .insert _ => .insert
  | .update _ => .update
  | .delete _ => .delete
  | .createTable _ => .createTable
  | .dropTable _ => .dropTable

end Clauses

namespace Query

/-- A new query of a kind, bound to the database. -/
def new (kind : QueryKind) : Query := { clauses := Clauses.empty kind }

/-- The kind of a query. -/
def kind (q : Query) : QueryKind := q.clauses.kind

/-- The class name of the builder of a query's kind. -/
def className (q : Query) : String := q.kind.builderName

/-- Records a configuration problem unless one is already recorded. -/
def fail (q : Query) (f : Fault) : Query :=
  match q.fault with
  | some _ => q
  | none => { q with fault := some f }

/-- The class of a value as a model annotation. -/
def classOf : Value → Option Ty
  | .object c _ | .member c _ _ => some (.cls c)
  | _ => none

/-- The class of the bound model: the element class of a list type, the class
itself, or the class of the (first) instance. -/
def modelType? (q : Query) : Option Ty :=
  match q.model with
  | some (.type (.generic .list args)) => args.head?
  | some (.type t) => some t
  | some (.list []) => none
  | some (.list (v :: _)) => classOf v
  | some v => classOf v
  | none => none

/-- The instances bound as the model; none when a class is bound. -/
def instances (q : Query) : List Value :=
  match q.model with
  | some (.list vs) => vs
  | some (.type _) | some .none | none => []
  | some v => [v]

/-- Whether the model was bound as a list of instances. -/
def boundList (q : Query) : Bool :=
  match q.model with
  | some (.list _) => true
  | _ => false

end Query

end SqlMapper
