import SqlMapper.Database.Store

/-!
# Plans: statements with their names resolved

A plan is a statement after every name in it has been looked up. A column
reference becomes a place: the depth of the query whose row it reads (0 for
the outermost), which source of that query, and which column. Every
comparison carries how it compares: the affinity both operands take first,
and the collation that orders text. Aggregate and window calls become slots of
the query they belong to, computed once per group or per row.

A query plan lists its selects with the compound operators between them, the
ordering of the whole (each term a result column or a key the select computes
beside its results), and its paging. A select plan joins its sources, each a
stored table, the schema table, a sub-query, the working rows of a recursive
common table expression, or rows a function gives; it filters, groups and
computes its results, keys, aggregates and windows.
-/

namespace SqlMapper.Database

/-- How a comparison treats its operands: the affinity both take first, if
any, and the collation that orders text. -/
structure Comparer where
  affinity : Option Affinity := none
  collation : Collation := .binary
  deriving Inhabited

/-- Comparison operators. -/
inductive CompareOp where
  | eq | ne | lt | le | gt | ge | is | isNot
  deriving DecidableEq, Inhabited

/-- Operators that compute a value from two. -/
inductive ArithOp where
  | add | sub | mul | div | rem | concat | bitAnd | bitOr | shiftLeft | shiftRight
  deriving DecidableEq, Inhabited

/-- How an ordering term orders: its collation, its direction, and whether
`NULL` comes first. -/
structure OrderSpec where
  collation : Collation := .binary
  descending : Bool := false
  nullsFirst : Bool := true
  deriving Inhabited

/-- What an ordering term orders by: a result column, or a key the select
computes beside its results, by position. -/
inductive OrderKey where
  | result (index : Nat)
  | key (index : Nat)
  deriving Inhabited

mutual

/-- An expression with its names resolved. -/
inductive Term where
  | value (d : Datum)
  | param (index : Nat)
  /-- A column of a source: the depth of the query whose source it is, the
  source, the column. -/
  | column (scope source index : Nat)
  /-- The row number of a source. -/
  | rowid (scope source : Nat)
  | negate (t : Term)
  | bitNot (t : Term)
  | not (t : Term)
  | arith (op : ArithOp) (a b : Term)
  | and (a b : Term)
  | or (a b : Term)
  | compare (op : CompareOp) (c : Comparer) (a b : Term)
  /-- A comparison of row values, element by element. -/
  | compareRows (op : CompareOp) (cs : List Comparer) (as bs : List Term)
  | isNull (t : Term) (negated : Bool)
  /-- Whether a value lies between two others, each end compared its own way. -/
  | between (t lo hi : Term) (low high : Comparer)
  /-- Whether a value is true (or false), never `NULL`; negated, whether it is not. -/
  | truth (t : Term) (isTrue negated : Bool)
  | inList (t : Term) (items : List Term) (c : Comparer) (negated : Bool)
  | inQuery (ts : List Term) (q : Query) (cs : List Comparer) (negated : Bool)
  /-- A scalar function by name, with its arguments and the collation it uses. -/
  | call (name : String) (args : List Term) (collation : Collation)
  /-- An aggregate of the query at a depth, by slot. -/
  | aggregate (scope slot : Nat)
  /-- A window function of the query at a depth, by slot. -/
  | window (scope slot : Nat)
  | choice (operand : Option Term) (cs : List Comparer) (branches : List (Term × Term)) (otherwise : Option Term)
  | cast (t : Term) (a : Affinity)
  | exists (q : Query)
  /-- A column of the first row of a query, `NULL` when it has none. -/
  | scalar (q : Query) (index : Nat)
  | raise (kind : RaiseKind) (message : String)

/-- A source of rows. -/
inductive SourcePlan where
  | table (name : String)
  | schemaTable
  /-- A query, run with the rows of the queries above the depth it was resolved at. -/
  | query (q : Query) (depth : Nat)
  /-- The working row of the innermost recursive common table expression. -/
  | working
  /-- Rows a function gives, as `json_each`. -/
  | rows (name : String) (args : List Term)

/-- A source joined to the sources before it: the kind of join, the source,
how many columns it has, and its condition. -/
inductive JoinPlan where
  | mk (kind : JoinKind) (source : SourcePlan) (width : Nat) (on : Option Term)

/-- An aggregate call: its function, arguments, whether its arguments are
distinct, its filter, and the collation its comparisons use. -/
inductive AggregatePlan where
  | mk (name : String) (args : List Term) (distinct : Bool) (filter : Option Term) (collation : Collation)

/-- One end of a window frame. -/
inductive BoundPlan where
  | unboundedPreceding
  | preceding (t : Term)
  | currentRow
  | following (t : Term)
  | unboundedFollowing

/-- A window call: its function, arguments and filter, its partitions, its
order, its frame, and the collation its comparisons use. -/
inductive WindowPlan where
  | mk (name : String) (args : List Term) (filter : Option Term) (partition : List (Term × Collation))
      (orders : List (Term × OrderSpec)) (unit : FrameUnit) (start finish : BoundPlan) (exclude : FrameExclude)
      (collation : Collation)

/-- One select of a compound. -/
inductive CorePlan where
  /-- A select: its joined sources, filter, groups, having, results, ordering
  keys, aggregates, windows, the collations its `DISTINCT` compares by, and
  whether it groups its rows. -/
  | select (joins : List JoinPlan) (filter : Option Term) (groups : List (Term × Collation)) (having : Option Term)
      (results : List Term) (keys : List Term) (aggregates : List AggregatePlan) (windows : List WindowPlan)
      (distinct : Option (List Collation)) (aggregated : Bool)
  | values (rows : List (List Term))

/-- A query. -/
inductive Query where
  /-- Selects joined by compound operators, the collations of their columns,
  the ordering of the whole, and its paging. -/
  | compound (first : CorePlan) (rest : List (CompoundOp × CorePlan)) (collations : List Collation)
      (orders : List (OrderKey × OrderSpec)) (limit offset : Option Term)
  /-- A recursive common table expression: the selects that start it, those
  that extend it from one working row, whether it keeps duplicates out, the
  collations of its columns, the order the working rows are taken in, and its
  paging. -/
  | recursive (seed : Query) (step : List Query) (distinct : Bool) (collations : List Collation)
      (orders : List (Nat × OrderSpec)) (limit offset : Option Term)

end

deriving instance BEq for Comparer, OrderSpec, OrderKey
deriving instance BEq for Term, SourcePlan, JoinPlan, AggregatePlan, BoundPlan, WindowPlan, CorePlan, Query

instance : Inhabited Term := ⟨.value .null⟩
instance : Inhabited SourcePlan := ⟨.working⟩
instance : Inhabited CorePlan := ⟨.values []⟩
instance : Inhabited Query := ⟨.compound default [] [] [] none none⟩

/-- A column of a query's result as its consumers see it: its name, affinity and collation. -/
structure ColumnShape where
  name : String
  affinity : Option Affinity := none
  collation : Option Collation := none
  deriving Inhabited

end SqlMapper.Database
