import SqlMapper.Database.Parse.Basic

/-!
# Table definitions

A table definition lists the columns of a table, each with its declared
type, the affinity that type gives it, its collation, its default and whether
it refuses `NULL`; the table's checks and foreign keys; and whether it keeps
row numbers and checks the types of its values strictly.

A primary key of one column declared exactly `INTEGER`, ascending, is the row
number itself. Every other primary key, and every `UNIQUE` constraint, is a
unique index that the definition makes, named `sqlite_autoindex_<table>_<n>`
in the order the constraints are written: column constraints first, then the
table's. A constraint on the same terms as one before it makes no index of
its own.

The definition is refused, with the database's words, when a column is named
twice, a collation is unknown, a default is not constant, a table has two
primary keys, `AUTOINCREMENT` is not on the row number, a foreign key names a
column the table lacks, a table without row numbers has no primary key, or a
strict table has a column of a type outside `INT`, `INTEGER`, `REAL`, `TEXT`,
`BLOB` and `ANY`.
-/

namespace SqlMapper.Database

/-- Whether two names are the same, ASCII case ignored. -/
def sameName (a b : String) : Bool := upperWord a == upperWord b

/-- A column of a table. -/
structure Column where
  name : String
  /-- The declared type as the schema shows it: the standard types in capitals. -/
  declared : String
  affinity : Affinity
  /-- What a `NULL` in the column does, when the column refuses it. -/
  notNull : Option OnError := none
  /-- The default, with its text as written. -/
  default : Option (Expr × String) := none
  collation : Collation := .binary
  /-- The expression of a generated column, and whether it is stored. -/
  generated : Option (Expr × Bool) := none
  /-- The column's place in the primary key, from 1; 0 when it is not in it. -/
  keyPosition : Nat := 0
  deriving Inhabited

/-- What a term of an index is: a column by its position, or an expression. -/
inductive KeyTerm where
  | column (index : Nat)
  | expr (e : Expr)
  deriving Inhabited

/-- A term of an index: what it is, how it compares, and its direction. -/
structure KeyPart where
  term : KeyTerm
  collation : Collation := .binary
  descending : Bool := false
  deriving Inhabited

/-- An index of a table: its name, its table, its terms, whether no two rows
may share its terms, what a conflict does, the rows it covers, and the text
the schema records for it (none for an index a table definition makes). -/
structure IndexDef where
  name : String
  table : String
  parts : List KeyPart
  unique : Bool
  onConflict : Option OnError := none
  filter : Option Expr := none
  sql : Option String := none
  /-- Whether the index is the table's primary key. -/
  primary : Bool := false
  deriving Inhabited

/-- A check of a table: its name in messages, and its condition. -/
structure CheckDef where
  label : String
  e : Expr
  deriving Inhabited

/-- A foreign key: the table's columns, and the table and columns they refer to. -/
structure ForeignKey where
  columns : List Nat
  table : String
  /-- The columns referred to; none means the primary key of that table. -/
  targets : List String
  onDelete : ForeignAction := .noAction
  onUpdate : ForeignAction := .noAction
  deferred : Bool := false
  deriving Inhabited

/-- The definition of a table. -/
structure TableDef where
  name : String
  columns : List Column
  /-- The column that holds the row number, if one does. -/
  rowidColumn : Option Nat := none
  /-- What a conflict on the row number does. -/
  rowidConflict : Option OnError := none
  /-- Whether row numbers are never used again. -/
  autoincrement : Bool := false
  checks : List CheckDef := []
  foreignKeys : List ForeignKey := []
  withoutRowid : Bool := false
  strict : Bool := false
  deriving Inhabited

namespace TableDef

/-- The position of a column by name, case ignored. -/
def columnIndex? (t : TableDef) (name : String) : Option Nat :=
  t.columns.findIdx? (fun c => sameName c.name name)

/-- The column at a position. -/
def column (t : TableDef) (i : Nat) : Column := t.columns[i]?.getD default

/-- The label of a column in constraint messages: `table.column`. -/
def columnLabel (t : TableDef) (i : Nat) : String := t.name ++ "." ++ (t.column i).name

/-- The label of the row number in constraint messages. -/
def rowidLabel (t : TableDef) : String :=
  match t.rowidColumn with
  | some i => t.columnLabel i
  | none => t.name ++ ".rowid"

/-- Whether the table has row numbers a query can name. -/
def hasRowid (t : TableDef) : Bool := !t.withoutRowid

end TableDef

/-- The standard declared types, which the schema shows in capitals. -/
def standardTypes : List String := ["ANY", "BLOB", "INT", "INTEGER", "REAL", "TEXT"]

/-- The declared type of a column as the schema keeps it: the text without its
quotes, a standard type in capitals. -/
def declaredType (written : String) : String :=
  let t := Parse.dequoteText written
  if written.length ≥ 3 && standardTypes.contains (upperWord t) then upperWord t else
  if (written.toList.head?.map fun c => c == '"' || c == '\'' || c == '`' || c == '[').getD false then t
  else written

/-- The affinity of a column of a strict table, from its declared type. -/
def strictAffinity (declared : String) : Affinity :=
  match upperWord declared with
  | "INT" | "INTEGER" => .integer
  | "REAL" => .real
  | "TEXT" => .text
  | "BLOB" | "ANY" => .blob
  | _ => .blob

/-- The fault of a collation the database does not know. -/
def unknownCollation (name : String) : Fault := operational ("no such collation sequence: " ++ name)

/-- The collation of a name, or the fault that there is none. -/
def collationOf (name : String) : Except Fault Collation :=
  match Collation.ofName? name with
  | some c => pure c
  | none => throw (unknownCollation name)

/-- Whether an expression names a column or holds a select, which a default may not. -/
def Expr.mentionsData : Nat → Expr → Bool
  | 0, _ => true
  | fuel + 1, e =>
    match e with
    | .column .. | .quotedName _ | .exists _ | .scalar _ | .inSelect .. => true
    | .literal _ | .number _ | .param _ | .callStar .. | .raise .. => false
    | .unary _ a | .isNull a _ | .cast a _ | .collate a _ => Expr.mentionsData fuel a
    | .binary _ a b => Expr.mentionsData fuel a || Expr.mentionsData fuel b
    | .between a lo hi _ => Expr.mentionsData fuel a || Expr.mentionsData fuel lo || Expr.mentionsData fuel hi
    | .inList a items _ => Expr.mentionsData fuel a || items.any (Expr.mentionsData fuel)
    | .pattern _ a p esc _ =>
      Expr.mentionsData fuel a || Expr.mentionsData fuel p || (esc.map (Expr.mentionsData fuel)).getD false
    | .call _ _ args _ _ => args.any (Expr.mentionsData fuel)
    | .choice op branches other =>
      (op.map (Expr.mentionsData fuel)).getD false ||
        branches.any (fun (w, t) => Expr.mentionsData fuel w || Expr.mentionsData fuel t) ||
        (other.map (Expr.mentionsData fuel)).getD false
    | .row items => items.any (Expr.mentionsData fuel)

/-- What a table definition makes: the definition and the indexes of its keys,
in the order they are made. -/
structure TableMade where
  table : TableDef
  indexes : List IndexDef

namespace TableMade

/-- The key terms of an indexed term list, each column by position. -/
def keyParts (t : TableDef) (terms : List IndexedTerm) : Except Fault (List KeyPart) :=
  terms.mapM fun it => do
    let colName ← match it.e with
      | .column none none n => pure n
      | .quotedName n => pure n
      | _ => throw (operational "expressions prohibited in PRIMARY KEY and UNIQUE constraints")
    match t.columnIndex? colName with
    | none => throw (operational ("no such column: " ++ colName))
    | some i =>
      let coll ← match it.collation with
        | some c => collationOf c
        | none => pure (t.column i).collation
      pure { term := .column i, collation := coll, descending := it.descending }

/-- Whether two keys have the same terms. -/
def sameParts (a b : List KeyPart) : Bool :=
  a.length == b.length && (a.zip b).all fun (x, y) =>
    match x.term, y.term with
    | .column i, .column j => i == j && x.collation == y.collation
    | _, _ => false

/-- Adds a unique key, unless one on the same terms is already made. -/
def addKey (m : TableMade) (parts : List KeyPart) (onConflict : Option OnError) (primary : Bool) : TableMade :=
  if m.indexes.any (fun i => sameParts i.parts parts) then m
  else
    let name := "sqlite_autoindex_" ++ m.table.name ++ "_" ++ toString (m.indexes.length + 1)
    { m with indexes := m.indexes ++ [{ name, table := m.table.name, parts, unique := true, onConflict, primary }] }

/-- Declares the primary key: the row number when it is one ascending column
declared `INTEGER`, else a unique key. -/
def addPrimaryKey (m : TableMade) (terms : List IndexedTerm) (onConflict : Option OnError) (auto : Bool) :
    Except Fault TableMade := do
  let t := m.table
  if t.columns.any (·.keyPosition > 0) || t.rowidColumn.isSome then
    throw (operational ("table \"" ++ t.name ++ "\" has more than one primary key"))
  let single : Option Nat := match terms with
    | [it] => match it.e with
      | .column none none n | .quotedName n => t.columnIndex? n
      | _ => none
    | _ => none
  let descending := terms.any (·.descending)
  match single with
  | some i =>
    if upperWord (t.column i).declared == "INTEGER" && !descending && !t.withoutRowid then
      let cols := t.columns.set i { t.column i with keyPosition := 1 }
      let t' := { t with columns := cols, rowidColumn := some i, rowidConflict := onConflict }
      return { m with table := { t' with autoincrement := auto } }
  | none => pure ()
  if auto then throw (operational "AUTOINCREMENT is only allowed on an INTEGER PRIMARY KEY")
  let parts ← keyParts t terms
  let positions := parts.filterMap fun p => match p.term with
    | .column j => some j
    | .expr _ => none
  let cols := t.columns.zipIdx.map fun (c, j) =>
    match positions.findIdx? (· == j) with
    | some k => { c with keyPosition := k + 1 }
    | none => c
  pure (addKey { m with table := { t with columns := cols } } parts onConflict true)

end TableMade

/-- Makes a table definition from its column definitions, constraints and options. -/
def TableDef.make (name : String) (decls : List ColumnDecl) (constraints : List (Option String × TableConstraint))
    (withoutRowid strict : Bool) : Except Fault TableMade := do
  let mut m : TableMade := { table := { name, columns := [], withoutRowid, strict }, indexes := [] }
  for d in decls do
    let t := m.table
    if t.columnIndex? d.name |>.isSome then throw (operational ("duplicate column name: " ++ d.name))
    let declared := declaredType d.type
    let affinity := if strict then strictAffinity declared else Affinity.ofDeclared declared
    let i := t.columns.length
    m := { m with table := { t with columns := t.columns ++ [{ name := d.name, declared, affinity }] } }
    for (cname, c) in d.constraints do
      let t := m.table
      let col := t.column i
      match c with
      | .notNull conflict =>
        m := { m with table := { t with columns := t.columns.set i { col with notNull := some (conflict.getD .abort) } } }
      | .primaryKey desc conflict auto =>
        m ← m.addPrimaryKey [{ e := .column none none d.name, descending := desc }] conflict auto
      | .unique conflict =>
        m := m.addKey [{ term := .column i, collation := col.collation }] conflict false
      | .check e text =>
        m := { m with table := { t with checks := t.checks ++ [{ label := cname.getD text, e }] } }
      | .default e text =>
        if Expr.mentionsData 1000 e then
          throw (operational ("default value of column [" ++ d.name ++ "] is not constant"))
        m := { m with table := { t with columns := t.columns.set i { col with default := some (e, text) } } }
      | .collate n =>
        let coll ← collationOf n
        m := { m with table := { t with columns := t.columns.set i { col with collation := coll } } }
      | .references r =>
        let fk : ForeignKey :=
          { columns := [i], table := r.table, targets := r.columns,
            onDelete := r.onDelete, onUpdate := r.onUpdate, deferred := r.deferred }
        if r.columns.length > 1 then
          throw (operational ("foreign key on " ++ d.name ++
            " should reference only one column of table " ++ r.table))
        m := { m with table := { t with foreignKeys := t.foreignKeys ++ [fk] } }
      | .generated e stored =>
        m := { m with table := { t with columns := t.columns.set i { col with generated := some (e, stored) } } }
  for (cname, c) in constraints do
    let t := m.table
    match c with
    | .primaryKey terms conflict auto => m ← m.addPrimaryKey terms conflict auto
    | .unique terms conflict =>
      let parts ← TableMade.keyParts t terms
      m := m.addKey parts conflict false
    | .check e text => m := { m with table := { t with checks := t.checks ++ [{ label := cname.getD text, e }] } }
    | .foreignKey cols r =>
      let idx ← cols.mapM fun n => match t.columnIndex? n with
        | some j => pure j
        | none => throw (operational ("unknown column \"" ++ n ++ "\" in foreign key definition"))
      if !r.columns.isEmpty && r.columns.length != cols.length then
        throw (operational ("number of columns in foreign key does not match the number of columns in " ++
          "the referenced table"))
      let fk : ForeignKey :=
        { columns := idx, table := r.table, targets := r.columns,
          onDelete := r.onDelete, onUpdate := r.onUpdate, deferred := r.deferred }
      m := { m with table := { t with foreignKeys := t.foreignKeys ++ [fk] } }
  let t := m.table
  if withoutRowid then
    if !(t.columns.any (·.keyPosition > 0)) then throw (operational ("PRIMARY KEY missing on table " ++ name))
    if t.autoincrement then throw (operational "AUTOINCREMENT not allowed on WITHOUT ROWID tables")
  if strict then
    for c in t.columns do
      if c.declared.isEmpty then throw (operational ("missing datatype for " ++ name ++ "." ++ c.name))
      if !standardTypes.contains (upperWord c.declared) then
        throw (operational ("unknown datatype for " ++ name ++ "." ++ c.name ++ ": \"" ++ c.declared ++ "\""))
  pure m

end SqlMapper.Database
