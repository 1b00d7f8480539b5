import SqlMapper.Database.Execute

/-!
# Changing the schema

Tables, indexes, views and triggers are made by statements whose text the
schema keeps, and dropped by name. A name is refused when it begins with
`sqlite_`, or when an object of the same kind space already has it: tables
and views share one space, indexes have their own, and so do triggers.

A table made from a select takes its columns' names and affinities from the
select, and its text is written afresh: each column followed by the word of
its affinity. A unique index is refused when the rows already break it.
Dropping a table drops its indexes and triggers; with foreign keys enforced
it first removes its rows, so that rows referring to them fail the drop or
follow their keys' actions.

Altering a table renames it (its text and that of its indexes name it anew,
in quotes), renames a column, adds a column at the end (its text added to
the table's), or drops a column that no key holds.

Pragmas read and set the schema's version number and whether foreign keys
are enforced, and describe a table's columns.
-/

namespace SqlMapper.Database

/-- Whether a name is one the database keeps for itself. -/
def reservedName (name : String) : Bool := (upperWord name).startsWith "SQLITE_"

/-- The fault of a name the database keeps for itself. -/
def reservedFault (name : String) : Fault := operational ("object name reserved for internal use: " ++ name)

/-- Changes the store. -/
def changeStore (f : Store → Store) : RunM Unit := modify fun rt => { rt with store := f rt.store }

/-- An identifier as the database writes it into text it makes: in double
quotes when it is not a plain word. -/
def quoteIdentifier (name : String) : String :=
  let plain := !name.isEmpty && name.toList.all (fun c => c.isAlphanum || c == '_') &&
    !((name.toList.head?.map Char.isDigit).getD false) && !isKeyword name
  if plain then name else "\"" ++ String.ofList (name.toList.flatMap fun c => if c == '"' then ['"', '"'] else [c]) ++ "\""

/-- The word a made table's text gives a column of an affinity. -/
def affinityWord : Option Affinity → String
  | some .text => "TEXT"
  | some .numeric => "NUM"
  | some .integer => "INT"
  | some .real => "REAL"
  | _ => ""

/-- The text of a table made from a select: its columns one after another,
on one line when they are short, else each on a line of its own. -/
def madeTableText (name : String) (cols : List (String × Option Affinity)) : String :=
  let parts := cols.map fun (n, a) =>
    let w := affinityWord a
    quoteIdentifier n ++ (if w.isEmpty then "" else " " ++ w)
  let size := cols.foldl (fun acc (n, _) => acc + (quoteIdentifier n).length + 5) 0 + (quoteIdentifier name).length
  if size < 50 then "CREATE TABLE " ++ quoteIdentifier name ++ "(" ++ ",".intercalate parts ++ ")"
  else "CREATE TABLE " ++ quoteIdentifier name ++ "(\n  " ++ ",\n  ".intercalate parts ++ "\n)"

/-- Whether a table or view of a name exists, with the word for it. -/
def Store.relationWord? (s : Store) (name : String) : Option String :=
  if (s.table? name).isSome then some "table"
  else if (s.view? name).isSome then some "view"
  else none

/-- Adds a table and the indexes its definition makes, with their entries. -/
def Store.addTable (s : Store) (made : TableMade) (sql : String) : Store :=
  let t := made.table
  let s := { s with tables := s.tables ++ [({ info := t, rows := [] } : Table)], indexes := s.indexes ++ made.indexes }
  let s := s.addEntry .table t.name t.name (some sql)
  let s := made.indexes.foldl (fun s ix =>
    if t.withoutRowid && ix.primary then s else s.addEntry .index ix.name t.name none) s
  if t.autoincrement then s.withSequence else s

/-- Makes a table. -/
def createTable (name written : String) (ifNotExists : Bool) (body : TableBody) (sql : String) : RunM Unit := do
  let s := (← get).store
  if reservedName name then throw (reservedFault name)
  if let some w := s.relationWord? name then
    if ifNotExists then return
    throw (operational (w ++ " " ++ written ++ " already exists"))
  if (s.index? name).isSome then throw (operational ("there is already an index named " ++ name))
  match body with
  | .columns decls constraints withoutRowid strict =>
    let made ← liftRun (TableDef.make name decls constraints withoutRowid strict)
    changeStore fun s => s.addTable made sql
  | .asSelect q =>
    let r ← liftRun (resolveFully (Resolve.query 1000 { store := s } q false))
    let rows ← evalIn { store := s } fun c => c.run r.query
    let cols := r.columns.map fun c => (c.name, c.affinity)
    let columns : List Column := cols.map fun (n, a) =>
      { name := n, declared := affinityWord a, affinity := a.getD .blob }
    let info : TableDef := { name, columns }
    let stored := rows.zipIdx.map fun (vs, k) =>
      ({ rowid := k + 1, values := vs.zipIdx.map fun (v, i) => info.convert i v } : Row)
    changeStore fun s =>
      let s := s.addTable { table := info, indexes := [] } (madeTableText name cols)
      match s.table? name with
      | some t => s.putTable { t with rows := stored }
      | none => s

/-- The key parts of an index's terms: columns by position, or expressions. -/
def indexParts (s : Store) (t : TableDef) (terms : List IndexedTerm) : Except Fault (List KeyPart) :=
  terms.mapM fun it => do
    let coll ← match it.collation with
      | some c => collationOf c
      | none => pure .binary
    match it.e with
    | .column none none n | .quotedName n =>
      match t.columnIndex? n with
      | some i =>
        let coll := if it.collation.isSome then coll else (t.column i).collation
        pure { term := .column i, collation := coll, descending := it.descending }
      | none =>
        match it.e with
        | .quotedName _ => pure { term := .expr it.e, collation := coll, descending := it.descending }
        | _ => throw (operational ("no such column: " ++ n))
    | e =>
      discard (resolveRowExpr s t .index e)
      pure { term := .expr e, collation := coll, descending := it.descending }

/-- Makes an index. -/
def createIndex (name table : String) (terms : List IndexedTerm) (filter : Option Expr) (unique ifNotExists : Bool)
    (sql : String) : RunM Unit := do
  let s := (← get).store
  if reservedName name then throw (reservedFault name)
  if (s.index? name).isSome then
    if ifNotExists then return
    throw (operational ("index " ++ name ++ " already exists"))
  if (s.table? name).isSome || (s.view? name).isSome then
    throw (operational ("there is already a table named " ++ name))
  if isSchemaTable table then throw (operational ("table " ++ table ++ " may not be indexed"))
  let t ← match s.table? table with
    | some t => pure t
    | none =>
      if (s.view? table).isSome then throw (operational "views may not be indexed")
      else throw (operational ("no such table: main." ++ table))
  let parts ← liftRun (indexParts s t.info terms)
  if let some f := filter then discard (liftRun (resolveRowExpr s t.info .partialIndex f))
  let ix : IndexDef := { name, table := t.info.name, parts, unique, filter, sql := some sql }
  if unique then
    let base : Context := { store := s }
    let mut seen : List (List Datum) := []
    for r in t.rows do
      match ← indexKey base t.info ix r with
      | some key =>
        if seen.any (sameKey ix key) then throw (uniqueFault (ix.labels t.info))
        seen := seen ++ [key]
      | none => pure ()
  changeStore fun s => ({ s with indexes := s.indexes ++ [ix] } : Store).addEntry .index name t.info.name (some sql)

/-- Makes a view. -/
def createView (name written : String) (columns : List String) (q : Select) (ifNotExists : Bool) (sql : String) :
    RunM Unit := do
  let s := (← get).store
  if reservedName name then throw (reservedFault name)
  if let some w := s.relationWord? name then
    if ifNotExists then return
    throw (operational (w ++ " " ++ written ++ " already exists"))
  if (s.index? name).isSome then throw (operational ("there is already an index named " ++ name))
  changeStore fun s => ({ s with views := s.views ++ [{ name, columns, query := q, sql }] } : Store).addEntry .view name name
    (some sql)

/-- Makes a trigger. -/
def createTrigger (name written : String) (time : TriggerTime) (event : TriggerEvent) (table : String)
    (condition : Option Expr) (body : List Statement) (ifNotExists : Bool) (sql : String) : RunM Unit := do
  let s := (← get).store
  if reservedName name then throw (reservedFault name)
  if (s.trigger? name).isSome then
    if ifNotExists then return
    throw (operational ("trigger " ++ written ++ " already exists"))
  if isSchemaTable table then throw (operational "cannot create trigger on system table")
  let tableName ← match s.table? table with
    | some t =>
      if time == .insteadOf then throw (operational ("cannot create INSTEAD OF trigger on table: " ++ table))
      pure t.info.name
    | none => match s.view? table with
      | some v =>
        if time != .insteadOf then
          throw (operational ("cannot create " ++ (if time == .before then "BEFORE" else "AFTER") ++
            " trigger on view: main." ++ table))
        pure v.name
      | none => throw (operational ("no such table: main." ++ table))
  let tr : TriggerDef := { name, table := tableName, time, event, condition, body, sql }
  changeStore fun s => ({ s with triggers := s.triggers ++ [tr] } : Store).addEntry .trigger name tableName (some sql)

/-- Drops a table with its indexes and triggers. -/
def dropTable (name : String) (ifExists : Bool) : RunM Unit := do
  let s := (← get).store
  if isSchemaTable name then throw (operational ("table " ++ name ++ " may not be dropped"))
  match s.table? name with
  | none =>
    if (s.view? name).isSome then throw (operational ("use DROP VIEW to delete view " ++ name))
    if ifExists then return
    throw (operational ("no such table: " ++ name))
  | some t =>
    if reservedName name && !sameName name sequenceTable then
      throw (operational ("table " ++ name ++ " may not be dropped"))
    let tname := t.info.name
    let picks := fun (_ : Bool) => true
    let before := s.orphans picks
    let base : Context := { store := s }
    if s.foreignKeys && !(s.referrers tname).isEmpty then
      for r in t.rows do
        discard (deleteRow writeFuel base t.info r true)
    changeStore fun s =>
      let s := { s with tables := s.tables.filter (!sameName ·.info.name tname),
                        indexes := s.indexes.filter (!sameName ·.table tname),
                        triggers := s.triggers.filter (!sameName ·.table tname),
                        entries := s.entries.filter fun e => !sameName e.table tname }
      match s.table? sequenceTable with
      | some q => s.putTable { q with rows := q.rows.filter fun r => match r.values with
          | .text n :: _ => !sameBytesName n tname
          | _ => true }
      | none => s
    let after := (← get).store.orphans picks
    if s.foreignKeys && after > before then throw foreignKeyFault

/-- Drops an object by kind and name. -/
def dropObject (kind : ObjectKind) (name : String) (ifExists : Bool) : RunM Unit := do
  let s := (← get).store
  match kind with
  | .table => dropTable name ifExists
  | .view =>
    match s.view? name with
    | none =>
      if (s.table? name).isSome then throw (operational ("use DROP TABLE to delete table " ++ name))
      if ifExists then return
      throw (operational ("no such view: " ++ name))
    | some v =>
      changeStore fun s => ({ s with views := s.views.filter (!sameName ·.name v.name),
                                     triggers := s.triggers.filter (!sameName ·.table v.name) } : Store).dropEntry .view v.name
  | .index =>
    match s.index? name with
    | none =>
      if ifExists then return
      throw (operational ("no such index: " ++ name))
    | some ix =>
      if ix.sql.isNone then
        throw (operational "index associated with UNIQUE or PRIMARY KEY constraint cannot be dropped")
      changeStore fun s => ({ s with indexes := s.indexes.filter (!sameName ·.name ix.name) } : Store).dropEntry .index
        ix.name
  | .trigger =>
    match s.trigger? name with
    | none =>
      if ifExists then return
      throw (operational ("no such trigger: " ++ name))
    | some tr =>
      changeStore fun s => ({ s with triggers := s.triggers.filter (!sameName ·.name tr.name) } : Store).dropEntry
        .trigger tr.name

/-- The text of a statement with the lexeme at a position replaced. -/
def replaceLexeme (text : String) (l : Lexeme) (replacement : String) : String :=
  let cs := text.toList
  String.ofList (cs.take l.start) ++ replacement ++ String.ofList (cs.drop l.stop)

/-- The text of a statement with the name after a keyword replaced by a new name in quotes. -/
def renameAfter (text : String) (keyword : String) (newName : String) : String :=
  let ls := tokenize text
  let rec go : List Lexeme → Option Lexeme
    | a :: b :: rest => if a.token.isKeyword keyword && b.token.isName then some b else go (b :: rest)
    | _ => none
  match go ls with
  | some l => replaceLexeme text l ("\"" ++ newName ++ "\"")
  | none => text

/-- The text of a table's definition with its name replaced by a new name in quotes. -/
def renameTableText (text : String) (newName : String) : String :=
  let ls := (tokenize text).drop 2
  let ls := if ls.head?.any (·.token.isKeyword "IF") then ls.drop 3 else ls
  match ls.head? with
  | some l => replaceLexeme text l ("\"" ++ newName ++ "\"")
  | none => text

/-- Renames a table, its indexes and triggers following it. -/
def renameTable (table newName : String) : RunM Unit := do
  let s := (← get).store
  let t ← match s.table? table with
    | some t => pure t
    | none => throw (operational ("no such table: " ++ table))
  if isSchemaTable table || reservedName table then
    throw (operational ("table " ++ table ++ " may not be altered"))
  if (s.relationWord? newName).isSome || (s.index? newName).isSome then
    throw (operational ("there is already another table or index with this name: " ++ newName))
  if reservedName newName then throw (reservedFault newName)
  let old := t.info.name
  let autoName := fun (n : String) =>
    let pre := "sqlite_autoindex_" ++ old ++ "_"
    if n.startsWith pre then "sqlite_autoindex_" ++ newName ++ "_" ++ (n.drop pre.length).toString else n
  let retarget := fun (fk : ForeignKey) => if sameName fk.table old then { fk with table := newName } else fk
  let retable := fun (u : Table) =>
    let info : TableDef := { u.info with foreignKeys := u.info.foreignKeys.map retarget }
    if sameName u.info.name old then { u with info := { info with name := newName } } else { u with info }
  changeStore fun s =>
    let tables := s.tables.map retable
    let indexes := s.indexes.map fun ix =>
      if sameName ix.table old then
        { ix with table := newName, name := autoName ix.name, sql := ix.sql.map (renameAfter · "ON" newName) }
      else ix
    let triggers := s.triggers.map fun tr => if sameName tr.table old then { tr with table := newName } else tr
    let entries := s.entries.map fun e =>
      if sameName e.table old then
        let sql := match e.kind with
          | .table => e.sql.map (renameTableText · newName)
          | .index => e.sql.map (renameAfter · "ON" newName)
          | _ => e.sql
        { e with table := newName, name := if e.kind == .table then newName else autoName e.name, sql }
      else e
    let s := { s with tables, indexes, triggers, entries }
    match s.table? sequenceTable with
    | some q => s.putTable { q with rows := q.rows.map fun r => match r.values with
        | .text n :: rest => if sameBytesName n old then { r with values := .ofString newName :: rest.drop 0 } else r
        | _ => r }
    | none => s

/-- The text of a definition with every name token of a column replaced. -/
def renameColumnText (text old newName : String) : String :=
  let ls := (tokenize text).reverse
  ls.foldl (fun acc l =>
    match l.token.name? with
    | some n => if sameName n old then replaceLexeme acc l ("\"" ++ newName ++ "\"") else acc
    | none => acc) text

/-- Renames a column of a table. -/
def renameColumn (table old newName : String) : RunM Unit := do
  let s := (← get).store
  let t ← match s.table? table with
    | some t => pure t
    | none => throw (operational ("no such table: " ++ table))
  if isSchemaTable table || reservedName table then
    throw (operational ("table " ++ table ++ " may not be altered"))
  let i ← match t.info.columnIndex? old with
    | some i => pure i
    | none => throw (operational ("no such column: \"" ++ old ++ "\""))
  if (t.info.columnIndex? newName).isSome then
    throw (operational ("duplicate column name: " ++ newName))
  let tname := t.info.name
  changeStore fun s =>
    let s := s.putTable { t with info := { t.info with columns := t.info.columns.set i { t.info.column i with name := newName } } }
    { s with entries := s.entries.map fun e =>
      if sameName e.table tname && (e.kind == .table || e.kind == .index) then
        { e with sql := e.sql.map (renameColumnText · old newName) }
      else e }

/-- Adds a column at the end of a table. -/
def addColumn (table : String) (decl : ColumnDecl) (text : String) : RunM Unit := do
  let s := (← get).store
  let t ← match s.table? table with
    | some t => pure t
    | none => throw (operational ("no such table: " ++ table))
  if isSchemaTable table || reservedName table then
    throw (operational ("table " ++ table ++ " may not be altered"))
  if decl.constraints.any (fun (_, c) => match c with
      | .primaryKey .. => true
      | _ => false) then throw (operational "Cannot add a PRIMARY KEY column")
  if decl.constraints.any (fun (_, c) => match c with
      | .unique _ => true
      | _ => false) then throw (operational "Cannot add a UNIQUE column")
  let made ← liftRun (TableDef.make t.info.name [decl] [] false t.info.strict)
  let col := made.table.column 0
  if (t.info.columnIndex? col.name).isSome then throw (operational ("duplicate column name: " ++ col.name))
  if col.notNull.isSome && col.default.isNone && !t.rows.isEmpty then
    throw (operational "Cannot add a NOT NULL column with default value NULL")
  let info := { t.info with columns := t.info.columns ++ [col], checks := t.info.checks ++ made.table.checks,
                            foreignKeys := t.info.foreignKeys ++ made.table.foreignKeys.map fun fk =>
                              { fk with columns := fk.columns.map (· + t.info.columns.length) } }
  let d ← columnDefault { store := s } info (info.columns.length - 1)
  let tname := t.info.name
  changeStore fun s =>
    let s := s.putTable { info, rows := t.rows.map fun r => { r with values := r.values ++ [d] } }
    { s with entries := s.entries.map fun e =>
      if e.kind == .table && sameName e.name tname then
        { e with sql := e.sql.map fun sql =>
          let cs := sql.toList
          let close := (cs.zipIdx.filter (·.1 == ')')).getLast?.map (·.2) |>.getD cs.length
          String.ofList (cs.take close) ++ ", " ++ text ++ String.ofList (cs.drop close) }
      else e }

/-- Drops a column of a table that no key holds. -/
def dropColumn (table column : String) : RunM Unit := do
  let s := (← get).store
  let t ← match s.table? table with
    | some t => pure t
    | none => throw (operational ("no such table: " ++ table))
  if isSchemaTable table || reservedName table then
    throw (operational ("table " ++ table ++ " may not be altered"))
  let i ← match t.info.columnIndex? column with
    | some i => pure i
    | none => throw (operational ("no such column: \"" ++ column ++ "\""))
  let c := t.info.column i
  if c.keyPosition > 0 || t.info.rowidColumn == some i then
    throw (operational ("cannot drop PRIMARY KEY column: \"" ++ c.name ++ "\""))
  let tname := t.info.name
  if (s.indexesOf tname).any (fun ix => ix.sql.isNone && ix.parts.any fun p => match p.term with
      | .column j => j == i
      | .expr _ => false) then
    throw (operational ("cannot drop UNIQUE column: \"" ++ c.name ++ "\""))
  if t.info.columns.length ≤ 1 then
    throw (operational ("cannot drop column \"" ++ c.name ++ "\": no other columns exist"))
  let shift := fun (j : Nat) => if j > i then j - 1 else j
  let info := { t.info with columns := t.info.columns.eraseIdx i,
                            rowidColumn := t.info.rowidColumn.map shift,
                            foreignKeys := (t.info.foreignKeys.filter fun fk => !fk.columns.contains i).map fun fk =>
                              { fk with columns := fk.columns.map shift } }
  changeStore fun s =>
    let s := s.putTable { info, rows := t.rows.map fun r => { r with values := r.values.eraseIdx i } }
    { s with indexes := s.indexes.map fun ix =>
      if sameName ix.table tname then
        { ix with parts := ix.parts.map fun p => match p.term with
          | .column j => { p with term := .column (shift j) }
          | .expr _ => p }
      else ix }

/-- Runs a pragma: gives its result's column names and rows, none for a pragma without result. -/
def runPragma (name : String) (value : Option PragmaValue) : RunM (Option (List String × List (List Datum))) := do
  let s := (← get).store
  let argument : Option Expr := match value with
    | some (.assign e) | some (.call e) => some e
    | none => none
  let wordOf : Expr → Option String := fun e => match e with
    | .column none none n | .quotedName n => some n
    | .literal (.text bs) => String.fromUTF8? (ByteArray.mk bs.toArray)
    | .number t => some t
    | _ => none
  let numberOf : Expr → Option Int := fun e => match e with
    | .number t => t.toInt?
    | .unary .neg (.number t) => t.toInt?.map (- ·)
    | .literal (.integer n) => some n
    | _ => none
  match (lowerWord name) with
  | "table_info" =>
    match argument.bind wordOf with
    | some tn =>
      match s.table? tn with
      | some t => pure (some (["cid", "name", "type", "notnull", "dflt_value", "pk"], tableInfoRows t.info))
      | none => pure none
    | none => pure none
  | "foreign_keys" =>
    match argument with
    | some e =>
      let on := match wordOf e with
        | some w => ["ON", "YES", "TRUE", "1"].contains (upperWord w)
        | none => (numberOf e).any (· != 0)
      changeStore fun s => { s with foreignKeys := on }
      pure none
    | none => pure (some (["foreign_keys"], [[.ofBool s.foreignKeys]]))
  | "user_version" =>
    match argument with
    | some e =>
      let n := (numberOf e).getD 0
      changeStore fun s => { s with userVersion := n }
      pure none
    | none => pure (some (["user_version"], [[.integer s.userVersion]]))
  | "index_list" =>
    match argument.bind wordOf with
    | some tn =>
      pure (some (["seq", "name", "unique", "origin", "partial"], indexListRows s tn))
    | none => pure none
  | _ => pure none

end SqlMapper.Database
