import SqlMapper.Database.Runtime

/-!
# Foreign keys

A foreign key ties columns of a child table to a key of a parent table: the
columns it names, or the parent's primary key. A child row whose key has no
`NULL` must find a parent row holding the same values, each compared under
the parent column's affinity and collation; a row that finds none is an
orphan.

A statement may pass through orphans while it runs: what counts is the
number of orphans when it ends, which must not have grown. Keys declared
`DEFERRABLE INITIALLY DEFERRED` wait, inside a transaction, for its commit.
-/

namespace SqlMapper.Database

/-- The columns of a parent table a foreign key refers to; none when the
parent has no such key. -/
def ForeignKey.parentColumns (fk : ForeignKey) (s : Store) (parent : TableDef) : Option (List Nat) :=
  if fk.targets.isEmpty then
    match parent.rowidColumn with
    | some i => some [i]
    | none =>
      ((s.indexesOf parent.name).find? (·.primary)).map fun ix =>
        ix.parts.filterMap fun p => match p.term with
          | .column j => some j
          | .expr _ => none
  else fk.targets.mapM parent.columnIndex?

/-- The key of a foreign key in a child row, none when part of it is `NULL`. -/
def ForeignKey.childKey (fk : ForeignKey) (values : List Datum) : Option (List Datum) :=
  let key := fk.columns.map fun i => values[i]?.getD .null
  if key.any (·.isNull) then none else some key

/-- Whether a parent row holds a key in the given columns. -/
def holdsKey (parent : TableDef) (cols : List Nat) (key : List Datum) (r : Row) : Bool :=
  cols.length == key.length &&
    (cols.zip key).all fun (j, v) =>
      let c := parent.column j
      let pv := r.values[j]?.getD .null
      !pv.isNull && (v.withAffinity c.affinity).compareWith c.collation pv == .eq

/-- Whether a child row's key finds its parent row; a key with a `NULL` needs none. -/
def Store.findsParent (s : Store) (fk : ForeignKey) (values : List Datum) : Bool :=
  match fk.childKey values with
  | none => true
  | some key =>
    match s.table? fk.table with
    | none => false
    | some p =>
      match fk.parentColumns s p.info with
      | some cols => p.rows.any (holdsKey p.info cols key)
      | none => false

/-- The number of orphan rows under the foreign keys a test picks by whether they are deferred. -/
def Store.orphans (s : Store) (picks : Bool → Bool) : Nat :=
  if !s.foreignKeys then 0
  else
    s.tables.foldl (fun n t =>
      t.info.foreignKeys.foldl (fun n fk =>
        if !picks fk.deferred then n
        else n + (t.rows.filter fun r => !s.findsParent fk r.values).length) n) 0

/-- The foreign keys that refer to a table, each with its child table. -/
def Store.referrers (s : Store) (parent : String) : List (TableDef × ForeignKey) :=
  s.tables.flatMap fun t =>
    (t.info.foreignKeys.filter fun fk => sameName fk.table parent).map fun fk => (t.info, fk)

/-- The rows of a child table whose key a parent row holds. -/
def Store.childRows (s : Store) (child : TableDef) (fk : ForeignKey) (parent : TableDef) (r : Row) : List Row :=
  match fk.parentColumns s parent, s.table? child.name with
  | some cols, some ct =>
    ct.rows.filter fun c => match fk.childKey c.values with
      | some key => holdsKey parent cols key r
      | none => false
  | _, _ => []

/-- The values of a parent row in a foreign key's columns. -/
def Store.parentKeyOf (s : Store) (fk : ForeignKey) (parent : TableDef) (r : Row) : List Datum :=
  match fk.parentColumns s parent with
  | some cols => cols.map fun j => r.values[j]?.getD .null
  | none => []

end SqlMapper.Database
