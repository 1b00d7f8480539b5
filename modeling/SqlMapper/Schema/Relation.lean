import SqlMapper.Schema.Table

/-!
# Relations between tables

What a relation resolves to once both of its tables are known: its kind, the
column pairs that join the two tables, and for a many-to-many relation the
junction table and its two sets of pairs.

A relation's kind is the declared one; otherwise a relation to many rows is
many-to-many when it names a junction table and one-to-many when not, and a
relation to one row belongs to its target when it declares join columns or
when the owning table has a column `<relation>_<key>` for every key column of
the target, and is the target's single child otherwise.

A relation that belongs to its target joins `<relation>_<key>` of the owner
with the target's key; the other kinds join the owner's key with
`<owner alias>_<key>` of the target. A junction table has
`<alias>_<key>` columns for the keys of both tables.
-/

namespace SqlMapper

open SqlMapper.Schema SqlMapper.Text

namespace Relation

/-- How a relation is named in messages: `Owner.field`. -/
def label (r : Relation) : String := r.owner.name ++ "." ++ r.name

/-- The target class of a relation. -/
def targetClass (cat : Catalog) (r : Relation) : Except Fault Ty :=
  match r.target with
  | .text name | .ref name =>
    match cat.table? name with
    | some c => pure (.cls c)
    | none => throw (.configuration ("relation " ++ r.label ++ ": unknown target " ++
        (match r.target with
          | .ref n => "ForwardRef(" ++ displayString n ++ ")"
          | _ => displayString name)))
  | t => pure t

/-- The schema of the table that owns a relation. -/
def baseSchema (cat : Catalog) (r : Relation) : Except Fault TableSchema := cat.schema r.owner

/-- The schema of a relation's target table. -/
def joinSchema (cat : Catalog) (r : Relation) : Except Fault TableSchema := do
  cat.schemaOf (← r.targetClass cat)

/-- The kind of a relation. -/
def kind (cat : Catalog) (r : Relation) : Except Fault RelationKind := do
  match r.declaredKind with
  | some k => pure k
  | none =>
    if r.toMany then pure (if r.junction.isSome then .manyToMany else .hasMany)
    else if !r.join.isEmpty then pure .belongsTo
    else
      let pks := (← r.joinSchema cat).pks
      let base ← r.baseSchema cat
      if !pks.isEmpty && pks.all (fun pk => (base.column? (r.name ++ "_" ++ pk.name)).isSome) then pure .belongsTo
      else pure .hasOne

/-- Whether a relation links to at most one row. -/
def isToOne (cat : Catalog) (r : Relation) : Except Fault Bool := return (← r.kind cat).isToOne

/-- The column of a name in a table of a relation, or the fault that it has none. -/
def require (r : Relation) (s : TableSchema) (name : String) : Except Fault Column :=
  match s.column? name with
  | some c => pure c
  | none => throw (.configuration ("relation " ++ r.label ++ ": table " ++ displayString s.name ++
      " does not have column " ++ displayString name))

/-- The key columns of a table of a relation, or the fault that it has none. -/
def requirePks (r : Relation) (s : TableSchema) : Except Fault (List Column) :=
  if s.pks.isEmpty then
    throw (.configuration ("relation " ++ r.label ++ ": table " ++ displayString s.name ++ " does not have a primary key"))
  else pure s.pks

/-- The pairs of an owner column and a target column that join a relation's tables. -/
def joinPairs (cat : Catalog) (r : Relation) : Except Fault (List (Column × Column)) := do
  let base ← r.baseSchema cat
  let target ← r.joinSchema cat
  if !r.join.isEmpty then
    r.join.mapM fun (l, f) => return (← r.require base l, ← r.require target f)
  else
    match ← r.kind cat with
    | .manyToMany => throw (.configuration ("relation " ++ r.owner.name ++ "." ++ r.name ++ " is m2m, use m2m_pairs"))
    | .belongsTo => (← r.requirePks target).mapM fun pk => return (← r.require base (r.name ++ "_" ++ pk.name), pk)
    | _ => (← r.requirePks base).mapM fun pk => return (pk, ← r.require target (base.aliasName ++ "_" ++ pk.name))

/-- The schema of a relation's junction table: the entity class of that name, else of that table name. -/
def junctionSchema (cat : Catalog) (r : Relation) : Except Fault TableSchema :=
  match r.junction with
  | none => throw (.configuration ("relation " ++ r.label ++ " has no junction table"))
  | some j =>
    let byName := cat.tables.filter (·.name == j)
    let candidates := if byName.isEmpty then cat.tables.filter (cat.tableNameOf · == j) else byName
    match candidates.getLast? with
    | some c => cat.schema c
    | none => throw (.configuration ("relation " ++ r.label ++ ": unknown junction table " ++ displayString j))

/-- The key columns of both tables of a many-to-many relation, each with the junction column that refers to it. -/
def m2mPairs (cat : Catalog) (r : Relation) : Except Fault (List (Column × Column) × List (Column × Column)) := do
  let base ← r.baseSchema cat
  let target ← r.joinSchema cat
  let junction ← r.junctionSchema cat
  let basePairs ← (← r.requirePks base).mapM fun pk =>
    return (pk, ← r.require junction (base.aliasName ++ "_" ++ pk.name))
  let joinPairs ← (← r.requirePks target).mapM fun pk =>
    return (pk, ← r.require junction (target.aliasName ++ "_" ++ pk.name))
  pure (basePairs, joinPairs)

end Relation

end SqlMapper
