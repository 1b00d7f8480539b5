import SqlMapper.Database.Builtin

/-!
# Scopes of names

Names in a query are looked up in scopes, innermost first. A scope belongs to
one select: it holds the sources of its `FROM` clause, each under the name
that qualifies its columns, and, once the select's results are known, the
aliases those results were given. The depth of a scope counts the selects
around it, so a reference records where its row comes from however deeply it
is nested.

A name without a qualifier is looked for in every source of a scope; two
sources that both have it make it ambiguous, unless the later one joins the
earlier with `USING` that column: then the earlier one is meant, the later one
under a right join, and under a full join the first of them that is not
`NULL`. A name found in no source may be a row number, when exactly one
source has row numbers, or an alias of a result. Only when a scope has none of
these is the next scope out searched.

Resolving an expression learns its traits besides its term: the affinity of
its value, its collation (a column's, or one that a `COLLATE` gives), whether
a `COLLATE` gave it, and whether it holds an aggregate or a window function.

Errors come in three kinds, as they do when a statement is prepared. An error
in an expression is remembered and resolving goes on, so that of several
errors in one expression the last one found is reported, once the expression
is done. Some errors end resolving at once. Others are only found when the
plan is used (an unknown collation, a row value where a value is wanted);
the first of those is reported after every name resolved.
-/

namespace SqlMapper.Database

/-- What resolving an expression learns of it besides its term. -/
structure Traits where
  /-- The affinity of its value, none when it has none. -/
  affinity : Option Affinity := none
  /-- The name of its collation, none when it has none. -/
  collation : Option String := none
  /-- Whether a `COLLATE` in it gives its collation. -/
  explicit : Bool := false
  /-- The name of the column it is, when it is a column reference. -/
  columnName : Option String := none
  /-- The name of the column it is once `COLLATE` and `likely` are taken off. -/
  baseColumn : Option String := none
  /-- Whether it holds an aggregate of its query. -/
  aggregate : Bool := false
  /-- Whether it holds a window function. -/
  window : Bool := false
  deriving Inhabited

namespace Traits

/-- The traits of an operator over its operands: no affinity, and the
collation of the first operand that a `COLLATE` gives one. -/
def combine (ts : List Traits) : Traits :=
  let aggregate := ts.any (·.aggregate)
  let window := ts.any (·.window)
  match ts.find? (·.explicit) with
  | some t => { collation := t.collation, explicit := true, aggregate, window }
  | none => { aggregate, window }

/-- The affinity a comparison of two operands applies to both: numeric when
both have an affinity and one is numeric, none when both have one and
neither is; otherwise the affinity of the one that has one. -/
def compareAffinity (a b : Option Affinity) : Option Affinity :=
  match a, b with
  | some x, some y => if x.isNumeric || y.isNumeric then some .numeric else some .blob
  | some x, none => some x
  | none, y => y

/-- The collation a comparison of two operands uses: one that a `COLLATE`
gives, the left operand's first; else the left operand's, else the right's. -/
def compareCollation (a b : Traits) : Option String :=
  if a.explicit then a.collation
  else if b.explicit then b.collation
  else a.collation <|> b.collation

end Traits

/-- A column a source offers to names. -/
structure SourceColumn where
  name : String
  affinity : Option Affinity := none
  collation : String := "BINARY"
  /-- Whether the column is hidden: only a name reaches it, not a star. -/
  hidden : Bool := false
  deriving Inhabited

/-- A source as names see it. -/
structure SourceView where
  /-- The name that qualifies its columns. -/
  name : String
  columns : List SourceColumn
  /-- Whether names reach its row numbers. -/
  rowid : Bool := false
  /-- The column that is its row number, if one is. -/
  rowidColumn : Option Nat := none
  /-- How it joins the sources before it. -/
  join : JoinKind := .inner
  /-- The columns its join shares with the sources before it. -/
  shared : List String := []
  /-- Whether only names qualified by its name reach it. -/
  qualifiedOnly : Bool := false
  deriving Inhabited

namespace SourceView

/-- The position of a column by name, case ignored. -/
def columnIndex? (s : SourceView) (name : String) : Option Nat :=
  s.columns.findIdx? (fun c => sameName c.name name)

/-- The traits of a column reference. -/
def columnTraits (s : SourceView) (j : Nat) : Traits :=
  let c := s.columns[j]?.getD default
  { affinity := c.affinity, collation := some c.collation, columnName := some c.name, baseColumn := some c.name }

/-- The traits of a reference to the row number. -/
def rowidTraits (s : SourceView) : Traits :=
  let name := match s.rowidColumn with
    | some j => (s.columns[j]?.map (·.name)).getD "rowid"
    | none => "rowid"
  { affinity := some .integer, columnName := some name, baseColumn := some name }

end SourceView

/-- Where an expression stands, for what it may not hold. -/
inductive Purpose where
  | query | check | index | partialIndex | generated
  deriving DecidableEq, Inhabited

/-- The words of a place in messages about what it may not hold. -/
def Purpose.place : Purpose → String
  | .query => "queries"
  | .check => "CHECK constraints"
  | .index => "index expressions"
  | .partialIndex => "partial index WHERE clauses"
  | .generated => "generated columns"

/-- The names one select offers. -/
structure Scope where
  /-- The number of selects around this one. -/
  depth : Nat
  sources : List SourceView := []
  /-- The aliases of the select's results, with their terms and traits. -/
  aliases : List (String × Term × Traits) := []
  /-- Whether aggregates may stand here. -/
  aggregates : Bool := false
  /-- Whether window functions may stand here. -/
  windows : Bool := false
  /-- The windows the select names in its `WINDOW` clause. -/
  windowDefs : List (String × Window) := []
  deriving Inhabited

/-- A common table expression: its name, the names given to its columns, its
select, and the scopes and depth where it is defined. -/
structure CteDef where
  name : String
  columns : List String
  select : Select
  scopes : List Scope := []
  next : Nat := 0
  deriving Inhabited

/-- What a name of a common table expression means inside its own definition. -/
inductive Defining where
  /-- Nothing: the expression would be defined by itself. -/
  | circular
  /-- The working row, where a recursive select names its sources. -/
  | working (columns : List SourceColumn)
  /-- Nothing: a recursive select names itself only among its own sources. -/
  | nested
  deriving Inhabited

/-- What resolving sees around an expression. -/
structure Env where
  store : Store
  /-- The scopes names are looked up in, innermost first. -/
  scopes : List Scope := []
  /-- The depth of the next select. -/
  next : Nat := 0
  /-- The common table expressions in reach, innermost `WITH` first. -/
  withs : List (List CteDef) := []
  /-- The common table expressions being defined. -/
  defining : List (String × Defining) := []
  /-- Whether the statement is a step of a trigger. -/
  trigger : Bool := false
  purpose : Purpose := .query
  deriving Inhabited

namespace Env

/-- The environment inside a new scope. -/
def enter (env : Env) (s : Scope) : Env := { env with scopes := s :: env.scopes, next := s.depth + 1 }

/-- The environment with the innermost scope changed. -/
def mapScope (env : Env) (f : Scope → Scope) : Env :=
  match env.scopes with
  | s :: rest => { env with scopes := f s :: rest }
  | [] => env

/-- Whether the innermost scope allows aggregates. -/
def aggregates (env : Env) : Bool := (env.scopes.head?.map (·.aggregates)).getD false

/-- Whether the innermost scope allows window functions. -/
def windows (env : Env) : Bool := (env.scopes.head?.map (·.windows)).getD false

/-- The depth of the innermost scope. -/
def depth (env : Env) : Nat := (env.scopes.head?.map (·.depth)).getD 0

/-- The common table expression of a name, with the `WITH` clauses in reach of its definition. -/
def cte? (env : Env) (name : String) : Option (CteDef × List (List CteDef)) :=
  let rec go : List (List CteDef) → Option (CteDef × List (List CteDef))
    | [] => none
    | w :: rest => match w.find? (fun c => sameName c.name name) with
      | some c => some (c, w :: rest)
      | none => go rest
  go env.withs

end Env

/-- The aggregates and window functions found in one select. -/
structure Slots where
  aggregates : List AggregatePlan := []
  windows : List WindowPlan := []
  deriving Inhabited

/-- The state of resolving. -/
structure ResolveState where
  /-- The last error found in the expression being resolved. -/
  soft : Option Fault := none
  /-- The first error found that using the plan would report. -/
  late : Option Fault := none
  /-- The slots of the selects being resolved, by depth. -/
  slots : List (Nat × Slots) := []
  /-- How many unnamed sub-queries were given names. -/
  unnamed : Nat := 0
  deriving Inhabited

/-- Resolving: it reads and changes the state, and may fail. -/
abbrev ResolveM := StateT ResolveState (Except Fault)

namespace Resolve

/-- Remembers an error of the expression being resolved. -/
def note (message : String) : ResolveM Unit :=
  modify fun s => { s with soft := some (operational message) }

/-- Remembers an error that using the plan would report, unless one came first. -/
def noteLate (f : Fault) : ResolveM Unit :=
  modify fun s => if s.late.isNone then { s with late := some f } else s

/-- Ends an expression: reports the last error found in it. -/
def settle : ResolveM Unit := do
  match (← get).soft with
  | some f => throw f
  | none => pure ()

/-- Fails with an error at once. -/
def fail {α : Type} (message : String) : ResolveM α := throw (operational message)

/-- The collation of a name, noting an unknown one; none means binary. -/
def collation (name : Option String) : ResolveM Collation := do
  match name with
  | none => pure .binary
  | some n => match Collation.ofName? n with
    | some c => pure c
    | none => do noteLate (unknownCollation n); pure .binary

/-- The slots of the select at a depth. -/
def slotsAt (depth : Nat) : ResolveM Slots := do
  pure (((← get).slots.find? (·.1 == depth)).map (·.2) |>.getD {})

/-- Sets the slots of the select at a depth. -/
def setSlots (depth : Nat) (sl : Slots) : ResolveM Unit :=
  modify fun s => { s with slots := (depth, sl) :: s.slots.filter (·.1 != depth) }

/-- Runs an action on fresh slots at a depth, giving back the slots it
filled and restoring those there before. -/
def withSlots {α : Type} (depth : Nat) (act : ResolveM α) : ResolveM (α × Slots) := do
  let saved ← slotsAt depth
  setSlots depth {}
  let a ← act
  let filled ← slotsAt depth
  setSlots depth saved
  pure (a, filled)

/-- The slot of an aggregate in the select at a depth, a new one unless the same call has one. -/
def aggregateSlot (depth : Nat) (a : AggregatePlan) : ResolveM Nat := do
  let sl ← slotsAt depth
  match sl.aggregates.findIdx? (· == a) with
  | some i => pure i
  | none => do
    setSlots depth { sl with aggregates := sl.aggregates ++ [a] }
    pure sl.aggregates.length

/-- The slot of a new window function in the select at a depth. -/
def windowSlot (depth : Nat) (w : WindowPlan) : ResolveM Nat := do
  let sl ← slotsAt depth
  setSlots depth { sl with windows := sl.windows ++ [w] }
  pure sl.windows.length

/-- A fresh name for a sub-query without one. -/
def unnamedSource : ResolveM String := do
  let n := (← get).unnamed + 1
  modify fun s => { s with unnamed := n }
  pure ("subquery_" ++ toString n)

end Resolve

/-- Whether a name is one of the names of the row number. -/
def isRowidName (n : String) : Bool := ["ROWID", "OID", "_ROWID_"].contains (upperWord n)

/-- What looking a name up in one scope finds. -/
inductive Found where
  | nothing
  | one (t : Term) (tr : Traits)
  | ambiguous
  deriving Inhabited

/-- Looks a name up in the sources of one scope, perhaps qualified by a source name. -/
def Scope.find (s : Scope) (qualifier : Option String) (name : String) : Found := Id.run do
  let mut hits : List (Nat × Nat) := []
  let mut ambiguous := false
  let mut full := false
  let mut rowidSources : List Nat := []
  let mut i := 0
  for src in s.sources do
    let eligible := match qualifier with
      | some q => sameName q src.name
      | none => !src.qualifiedOnly
    if eligible then
      match src.columnIndex? name with
      | some j =>
        if hits.isEmpty then hits := [(i, j)]
        else if !(src.shared.any (sameName · name)) then
          ambiguous := true
          hits := hits ++ [(i, j)]
        else if src.join == .right then
          hits := [(i, j)]
          ambiguous := false
          full := false
        else if src.join == .full then
          hits := hits ++ [(i, j)]
          full := true
        else pure ()
      | none =>
        if hits.isEmpty && src.rowid then rowidSources := rowidSources ++ [i]
    i := i + 1
  let column := fun ((k, j) : Nat × Nat) =>
    let src := s.sources[k]?.getD default
    (Term.column s.depth k j, src.columnTraits j)
  match hits with
  | [m] => let (t, tr) := column m; return .one t tr
  | [] =>
    match rowidSources with
    | [k] =>
      if isRowidName name then
        let src := s.sources[k]?.getD default
        let t := match src.rowidColumn with
          | some j => Term.column s.depth k j
          | none => Term.rowid s.depth k
        return .one t src.rowidTraits
      else return .nothing
    | _ => return .nothing
  | ms =>
    if full && !ambiguous then
      return .one (.call "coalesce" (ms.map fun m => (column m).1) .binary) {}
    else return .ambiguous

end SqlMapper.Database
