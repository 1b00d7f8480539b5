import SqlMapper.Database.Datum

/-!
# Statements

The statements the database runs, as trees. An expression is a literal, a
number as written, a parameter slot, a column reference, an operator applied
to expressions, a function call (perhaps with a filter and a window), a
`CASE`, a cast, a collation, or a sub-query. A select is an optional list of
common table expressions, one or more cores joined by compound operators,
and the ordering and paging of the whole. A core reads rows from its sources,
each joined to those before it, filters and groups them, and computes its
result columns; a `VALUES` core lists its rows.

The other statements write rows; define, change and drop tables, indexes,
views and triggers; set and read pragmas; and open, close and mark
transactions. A definition keeps the text the schema records for it.
-/

namespace SqlMapper.Database

/-- Operators between two expressions. -/
inductive BinaryOp where
  | concat | mul | div | rem | add | sub | bitAnd | bitOr | shiftLeft | shiftRight
  | lt | le | gt | ge | eq | ne | is | isNot | and | or
  /-- `->`: the JSON text at a path. -/
  | extract
  /-- `->>`: the SQL value at a path. -/
  | extractValue
  deriving DecidableEq, Inhabited

/-- Operators on one expression. -/
inductive UnaryOp where
  | neg | pos | bitNot | not
  deriving DecidableEq, Inhabited

/-- Pattern operators. -/
inductive MatchOp where
  | like | glob | regexp | fullText
  deriving DecidableEq, Inhabited

/-- How a source is joined to the sources before it. -/
inductive JoinKind where
  | inner | left | right | full | cross
  deriving DecidableEq, Inhabited

/-- How compound selects combine their rows. -/
inductive CompoundOp where
  | union | unionAll | intersect | except
  deriving DecidableEq, Inhabited

/-- The name of a compound operator in messages. -/
def CompoundOp.label : CompoundOp → String
  | .union => "UNION"
  | .unionAll => "UNION ALL"
  | .intersect => "INTERSECT"
  | .except => "EXCEPT"

/-- What a window frame counts in. -/
inductive FrameUnit where
  | rows | range | groups
  deriving DecidableEq, Inhabited

/-- Which rows of a frame its `EXCLUDE` clause leaves out; `unstated` when
the frame has no such clause, which leaves out nothing. -/
inductive FrameExclude where
  | unstated | noOthers | currentRow | group | ties
  deriving DecidableEq, Inhabited

/-- What `RAISE` does. -/
inductive RaiseKind where
  | ignore | rollback | abort | fail
  deriving DecidableEq, Inhabited

mutual

/-- An expression. -/
inductive Expr where
  | literal (d : Datum)
  /-- A number as written. -/
  | number (text : String)
  /-- The parameter of a slot, by its number from one. -/
  | param (index : Nat)
  /-- A name, perhaps qualified by a table and a schema. -/
  | column (schema : Option String) (table : Option String) (name : String)
  /-- A name in double quotes alone: a column when one has that name, else text. -/
  | quotedName (name : String)
  | unary (op : UnaryOp) (e : Expr)
  | binary (op : BinaryOp) (a b : Expr)
  | isNull (e : Expr) (negated : Bool)
  | between (e lo hi : Expr) (negated : Bool)
  | inList (e : Expr) (items : List Expr) (negated : Bool)
  | inSelect (e : Expr) (q : Select) (negated : Bool)
  | pattern (op : MatchOp) (e pat : Expr) (escape : Option Expr) (negated : Bool)
  /-- A function call: its name, whether its arguments are distinct, its
  arguments, its filter, and its window. -/
  | call (name : String) (distinct : Bool) (args : List Expr) (filter : Option Expr) (overClause : Option Over)
  /-- A call with `*` for arguments, as `count(*)`. -/
  | callStar (name : String) (filter : Option Expr) (overClause : Option Over)
  | choice (operand : Option Expr) (branches : List (Expr × Expr)) (otherwise : Option Expr)
  | cast (e : Expr) (type : String)
  | collate (e : Expr) (collation : String)
  | exists (q : Select)
  | scalar (q : Select)
  /-- A row value: several expressions in parentheses. -/
  | row (items : List Expr)
  | raise (kind : RaiseKind) (message : Option Expr)

/-- The window of a window function: a named one, or one written out. -/
inductive Over where
  | named (name : String)
  | spec (w : Window)

/-- A window: the window it extends, its partitions, its order and its frame. -/
inductive Window where
  | mk (base : Option String) (partition : List Expr) (orders : List OrderTerm) (frame : Option Frame)

/-- A window frame. -/
inductive Frame where
  | mk (unit : FrameUnit) (start finish : FrameBound) (exclude : FrameExclude)

/-- One end of a window frame. -/
inductive FrameBound where
  | unboundedPreceding
  | preceding (e : Expr)
  | currentRow
  | following (e : Expr)
  | unboundedFollowing

/-- One entry of a select's result. -/
inductive ResultColumn where
  | all
  | allOf (table : String)
  /-- An expression, with its alias and the text it was written as. -/
  | expr (e : Expr) (aliasName : Option String) (span : String)

/-- A source of rows: a table or view by name, a sub-query, or joined sources
in parentheses. -/
inductive Source where
  | table (schema : Option String) (name : String) (aliasName : Option String)
  | query (q : Select) (aliasName : Option String)
  | nested (items : List FromItem) (aliasName : Option String)
  /-- A function that gives rows, as `json_each(…)`. -/
  | function (name : String) (args : List Expr) (aliasName : Option String)

/-- A source with how it joins the sources before it: the kind of join,
whether it is natural, and its `ON` condition or `USING` columns. -/
inductive FromItem where
  | mk (kind : JoinKind) (natural : Bool) (source : Source) (on : Option Expr) (usingColumns : Option (List String))

/-- One select of a compound, or a list of rows. -/
inductive Core where
  | select (distinct : Bool) (columns : List ResultColumn) (sources : List FromItem) (filter : Option Expr)
      (groups : List Expr) (having : Option Expr) (windows : List (String × Window))
  | values (rows : List (List Expr))

/-- A term of an ordering: the expression, whether it descends, and where
`NULL` goes when said. -/
inductive OrderTerm where
  | mk (e : Expr) (descending : Bool) (nullsFirst : Option Bool)

/-- A common table expression. -/
inductive Cte where
  | mk (name : String) (columns : List String) (q : Select)

/-- A select: whether its common table expressions may refer to themselves,
the expressions, its cores, and its ordering and paging. -/
inductive Select where
  | mk (recursive : Bool) (ctes : List Cte) (first : Core) (rest : List (CompoundOp × Core)) (orders : List OrderTerm)
      (limit : Option Expr) (offset : Option Expr)

end

instance : Inhabited Expr := ⟨.literal .null⟩
instance : Inhabited Core := ⟨.values []⟩
instance : Inhabited Select := ⟨.mk false [] default [] [] none none⟩

/-- What a statement does with a row that breaks a constraint. -/
inductive OnError where
  | abort | ignore | replace | fail | rollback
  deriving DecidableEq, Inhabited

/-- Assignments of an update: the columns and the expression they take. -/
abbrev Assignments := List (List String × Expr)

/-- A term of an index or key: an expression (usually a column name), its
collation, and its direction. -/
structure IndexedTerm where
  e : Expr
  collation : Option String := none
  descending : Bool := false
  deriving Inhabited

/-- What an insert does when a row conflicts with a key. -/
inductive UpsertAction where
  | nothing
  | update (sets : Assignments) (filter : Option Expr)
  deriving Inhabited

/-- A conflict clause of an insert: the key it applies to, and what it does. -/
structure Upsert where
  target : Option (List IndexedTerm)
  targetFilter : Option Expr
  action : UpsertAction
  deriving Inhabited

/-- Where an insert's rows come from. -/
inductive InsertSource where
  | values (rows : List (List Expr))
  | select (q : Select)
  | defaults
  deriving Inhabited

/-- What a foreign key does to referring rows when the row they refer to goes or changes. -/
inductive ForeignAction where
  | noAction | restrict | setNull | setDefault | cascade
  deriving DecidableEq, Inhabited

/-- The table and columns a foreign key refers to, and its actions. -/
structure References where
  table : String
  columns : List String := []
  onDelete : ForeignAction := .noAction
  onUpdate : ForeignAction := .noAction
  deferred : Bool := false
  deriving Inhabited

/-- A constraint on one column. -/
inductive ColumnConstraint where
  | primaryKey (descending : Bool) (onConflict : Option OnError) (autoincrement : Bool)
  | notNull (onConflict : Option OnError)
  | unique (onConflict : Option OnError)
  /-- A check, with the text of its expression as messages give it. -/
  | check (e : Expr) (text : String)
  /-- A default, with its text as the schema shows it. -/
  | default (e : Expr) (text : String)
  | collate (name : String)
  | references (r : References)
  | generated (e : Expr) (stored : Bool)
  deriving Inhabited

/-- A column as a table definition declares it: its name, its declared type,
and its constraints, each with the name given to it. -/
structure ColumnDecl where
  name : String
  type : String
  constraints : List (Option String × ColumnConstraint) := []
  deriving Inhabited

/-- A constraint of a table definition. -/
inductive TableConstraint where
  | primaryKey (terms : List IndexedTerm) (onConflict : Option OnError) (autoincrement : Bool)
  | unique (terms : List IndexedTerm) (onConflict : Option OnError)
  | check (e : Expr) (text : String)
  | foreignKey (columns : List String) (r : References)
  deriving Inhabited

/-- The body of a table definition: columns and constraints with the table's
options, or a select whose result it takes. -/
inductive TableBody where
  | columns (cols : List ColumnDecl) (constraints : List (Option String × TableConstraint)) (withoutRowid strict : Bool)
  | asSelect (q : Select)
  deriving Inhabited

/-- When a trigger runs, relative to the statement that fires it. -/
inductive TriggerTime where
  | before | after | insteadOf
  deriving DecidableEq, Inhabited

/-- What fires a trigger. -/
inductive TriggerEvent where
  | insert | delete
  /-- An update, of the columns named (of any column when none). -/
  | update (columns : List String)
  deriving Inhabited

/-- The kinds of schema objects. -/
inductive ObjectKind where
  | table | index | view | trigger
  deriving DecidableEq, Inhabited

/-- The word of an object kind in messages. -/
def ObjectKind.word : ObjectKind → String
  | .table => "table"
  | .index => "index"
  | .view => "view"
  | .trigger => "trigger"

/-- A value given to a pragma. -/
inductive PragmaValue where
  | assign (e : Expr)
  | call (e : Expr)
  deriving Inhabited

/-- A statement. -/
inductive Statement where
  | select (q : Select)
  | insert (recursive : Bool) (ctes : List Cte) (table : String) (aliasName : Option String) (onError : OnError)
      (columns : Option (List String)) (source : InsertSource) (upserts : List Upsert) (returning : List ResultColumn)
  | update (recursive : Bool) (ctes : List Cte) (table : String) (aliasName : Option String) (onError : OnError)
      (sets : Assignments) (sources : List FromItem) (filter : Option Expr) (returning : List ResultColumn)
  | delete (recursive : Bool) (ctes : List Cte) (table : String) (aliasName : Option String) (filter : Option Expr)
      (returning : List ResultColumn)
  /-- A table definition: its name, the name as written, and the text the
  schema records for it. -/
  | createTable (name written : String) (ifNotExists temp : Bool) (body : TableBody) (sql : String)
  | createIndex (name : String) (table : String) (terms : List IndexedTerm) (filter : Option Expr)
      (unique ifNotExists : Bool) (sql : String)
  | createView (name written : String) (columns : List String) (q : Select) (ifNotExists temp : Bool)
      (sql : String)
  | createTrigger (name written : String) (time : TriggerTime) (event : TriggerEvent) (table : String)
      (condition : Option Expr) (body : List Statement) (ifNotExists temp : Bool) (sql : String)
  | drop (kind : ObjectKind) (name : String) (ifExists : Bool)
  | renameTable (table newName : String)
  | renameColumn (table column newName : String)
  | addColumn (table : String) (column : ColumnDecl) (text : String)
  | dropColumn (table column : String)
  | begin
  | commit
  | rollback (savepoint : Option String)
  | savepoint (name : String)
  | release (name : String)
  | pragma (name : String) (value : Option PragmaValue)
  /-- A statement the database accepts and that changes nothing here. -/
  | noOp
  /-- Nothing at all: text with no statement. -/
  | empty
  deriving Inhabited

/-- A statement ready to run: how many parameters it takes, and a bound on
how deeply its parts nest. -/
structure Prepared where
  statement : Statement
  params : Nat
  depth : Nat
  deriving Inhabited

end SqlMapper.Database
