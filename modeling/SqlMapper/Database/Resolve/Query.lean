import SqlMapper.Database.Resolve.Scope
import SqlMapper.Database.Parse.Query
import SqlMapper.Database.TableFunction

/-!
# Resolving queries

Resolving turns a select into a query plan. A select is resolved one compound
member at a time, from the last to the first; within a member, in the order
preparing a statement follows: its sources, its results, `HAVING`, `WHERE`
with the `ON` conditions of its joins, `ORDER BY` (for a select that is not a
compound) and `GROUP BY`. A member must have as many results as the member
after it. The ordering of a compound is resolved last, against the results of
its members, the first member first.

A term of `ORDER BY` is the alias of a result, a result's position, or an
expression; an expression that is one of the results orders by that result.
A term of `GROUP BY` is a position or an expression. Positions count from 1
and must name a result.

A result's name is its alias, else the name of the column it is, else its
text as written. A sub-query names its columns the same way, except that a
column is named as the query writes it, and names that repeat get `:1`, `:2`
and so on.

Views are resolved where they are used, from their own text, and common table
expressions where they are named. A common table expression whose last
members name it among their sources is recursive: its first members give the
first rows, and the others are run again on each row found.
-/

namespace SqlMapper.Database

/-! ## Syntax helpers -/

/-- An expression with its `COLLATE` and `likely` wrappers taken off. -/
def Expr.skipCollateAndLikely : Nat → Expr → Expr
  | 0, e => e
  | fuel + 1, e =>
    match e with
    | .collate a _ => Expr.skipCollateAndLikely fuel a
    | .call n _ (a :: more) none none =>
      let l := upperWord n
      if (l == "LIKELY" || l == "UNLIKELY") && more.isEmpty then Expr.skipCollateAndLikely fuel a
      else if l == "LIKELIHOOD" && more.length == 1 then Expr.skipCollateAndLikely fuel a
      else e
    | _ => e

/-- The collation the outermost `COLLATE` of an expression names. -/
def Expr.outerCollation? : Expr → Option String
  | .collate _ c => some c
  | _ => none

/-- The small integer an ordering term is, with its signs: a number that fits
in 32 bits, perhaps after `+` or `-`. -/
def Expr.smallInteger? : Nat → Expr → Option Int
  | 0, _ => none
  | fuel + 1, e =>
    match e with
    | .number t =>
      let cs := t.toList
      if cs.length ≥ 2 && cs[0]? == some '0' && (cs[1]? == some 'x' || cs[1]? == some 'X') then
        match readHexInteger (cs.drop 2) with
        | some v => if 0 ≤ v && v < Int.pow 2 31 then some v else none
        | none => none
      else if cs.all Char.isDigit && !cs.isEmpty then
        let v := (readInteger (utf8 t)).1
        if v < Int.pow 2 31 then some v else none
      else none
    | .unary .pos a => Expr.smallInteger? fuel a
    | .unary .neg a => (Expr.smallInteger? fuel a).map (- ·)
    | _ => none

/-- The name an expression is, when it is a name alone. -/
def Expr.bareName? : Expr → Option String
  | .column none none n => some n
  | .quotedName n => some n
  | _ => none

/-- The name of the column an expression names as written. -/
def Expr.writtenName? : Expr → Option String
  | .column _ _ n => some n
  | .quotedName n => some n
  | _ => none

/-- The number of values an expression stands for, when its syntax shows it. -/
def Expr.width? : Expr → Option Nat
  | .row items => some items.length
  | .scalar _ => none
  | _ => some 1

/-- ASCII lower case of a word. -/
def lowerWord (w : String) : String := String.ofList (w.toList.map fun c => if c.isUpper then c.toLower else c)

/-- The English ordinal of a number: `1st`, `2nd`, `3rd`, `4th`, `11th`, `21st`. -/
def ordinal (n : Nat) : String :=
  let x := n % 10
  let suffix := if x ≥ 4 || (n / 10) % 10 == 1 || x == 0 then "th"
    else if x == 1 then "st" else if x == 2 then "nd" else "rd"
  toString n ++ suffix

/-- The value of a number as written, negated when a minus sign stands before
it: an integer when it is written as one that fits (`-9223372036854775808`
fits only negated), else a real; a hexadecimal one must fit in 64 bits. -/
def numberValue (text : String) (negated : Bool) : Except Fault Datum :=
  let cs := text.toList
  let real := fun (_ : Unit) =>
    let x := (readReal (utf8 text)).value
    Datum.real (if negated then -x else x)
  if cs.length ≥ 2 && cs[0]? == some '0' && (cs[1]? == some 'x' || cs[1]? == some 'X') then
    match readHexInteger (cs.drop 2) with
    | some v =>
      if negated && v == minInteger then
        throw (operational ("hex literal too big: -" ++ text))
      else pure (.integer (if negated then -v else v))
    | none => throw (operational ("hex literal too big: " ++ (if negated then "-" else "") ++ text))
  else if !cs.isEmpty && cs.all Char.isDigit then
    let (n, form) := readInteger (utf8 text)
    match form with
    | .overflow => pure (real ())
    | .edge => if negated then pure (.integer minInteger) else pure (real ())
    | _ => pure (.integer (if negated then -n else n))
  else pure (real ())

/-- Whether a probability argument is a real written as a constant between 0 and 1. -/
def probabilityText (e : Expr) : Bool :=
  match e with
  | .number t =>
    let cs := t.toList
    cs.any (fun c => c == '.' || c == 'e' || c == 'E') && !cs.any (fun c => c == 'x' || c == 'X') &&
      (readReal (utf8 t)).value ≤ 1.0
  | _ => false

/-- Names made unique as a sub-query's columns: a name already taken gets
`:1`, `:2` and so on (after dropping such an ending of its own), and `true`
and `false` become `columnN`. -/
def uniqueNames (names : List String) : List String :=
  let stripSuffix := fun (n : String) =>
    let cs := n.toList
    let body := cs.reverse.dropWhile Char.isDigit
    match body with
    | ':' :: rest => if body.length < cs.length then String.ofList rest.reverse else n
    | _ => n
  let rec settleName : Nat → List String → String → Nat → String
    | 0, _, cand, _ => cand
    | fuel + 1, taken, cand, cnt =>
      if taken.any (sameName · cand) then
        settleName fuel taken (stripSuffix cand ++ ":" ++ toString (cnt + 1)) (cnt + 1)
      else cand
  (names.zipIdx.foldl (fun (acc : List String) (n, i) =>
      let base := if upperWord n == "TRUE" || upperWord n == "FALSE" then "column" ++ toString (i + 1) else n
      acc ++ [settleName (names.length + 2) acc base 0]) [])

/-! ## Resolved pieces -/

/-- A result column resolved: its term and traits, its alias (an `AS` name or
the name of a column a star stands for), its text as written, and the name of
the column it is as written. -/
structure ResultItem where
  term : Term
  traits : Traits
  aliasName : Option String := none
  span : String
  written : Option String := none
  deriving Inhabited

namespace ResultItem

/-- The name a statement's result shows for it. -/
def outputName (r : ResultItem) : String := r.aliasName <|> r.traits.columnName |>.getD r.span

/-- The name a sub-query shows for it: the alias, else the column as
written (or, once resolved, the column it is), else its text. -/
def sourceName (resolved : Bool) (r : ResultItem) : String :=
  match r.aliasName with
  | some a => a
  | none =>
    if resolved then r.traits.baseColumn.getD r.span
    else r.written.getD r.span

end ResultItem

/-- A member of a compound resolved: its plan, its results, its scope, and
whether it is one row of `VALUES`. -/
structure Arm where
  plan : CorePlan
  items : List ResultItem
  scope : Scope
  values : Bool := false
  orders : List (OrderKey × OrderSpec) := []
  deriving Inhabited

/-- A query resolved: its plan; the names its results show; its columns as a
source shows them; and the traits of the last member's results. -/
structure Resolved where
  query : Query
  names : List String
  columns : List ColumnShape
  lastTraits : List Traits
  deriving Inhabited

/-- The number of columns of a resolved query. -/
def Resolved.width (r : Resolved) : Nat := r.names.length

/-- A source resolved: how names see it, how rows come from it, how it joins,
its `ON` condition and the columns its `USING` names. -/
structure Joined where
  view : SourceView
  plan : SourcePlan
  kind : JoinKind
  on : Option Expr
  usingColumns : List String
  deriving Inhabited

/-- The members of a compound, each with the operator before it: the rows of
a leading `VALUES` one member each, and a later `VALUES` of several rows one
member of them all. -/
inductive ArmSyntax where
  | core (c : Core)
  | row (items : List Expr)
  | rows (rows : List (List Expr))
  deriving Inhabited

/-- The members of a select, with the operator before each. -/
def Select.arms (first : Core) (rest : List (CompoundOp × Core)) : List (Option CompoundOp × ArmSyntax) :=
  let lead : List (Option CompoundOp × ArmSyntax) := match first with
    | .values rows => rows.zipIdx.map fun (r, i) => (if i == 0 then none else some .unionAll, .row r)
    | c => [(none, .core c)]
  lead ++ rest.map fun (op, c) => match c with
    | .values [r] => (some op, .row r)
    | .values rows => (some op, .rows rows)
    | c => (some op, .core c)

/-- The collation of each column of a compound: the first member's that has one, else binary. -/
def armCollations (arms : List Arm) : List (Option String) :=
  let width := (arms.head?.map (·.items.length)).getD 0
  (List.range width).map fun i => arms.findSome? fun a => (a.items[i]?.bind (·.traits.collation))

/-- The columns of the schema table. -/
def schemaColumns : List SourceColumn :=
  [{ name := "type", affinity := some .text }, { name := "name", affinity := some .text },
   { name := "tbl_name", affinity := some .text }, { name := "rootpage", affinity := some .integer },
   { name := "sql", affinity := some .text }]

/-- The columns of a stored table as names see them. -/
def TableDef.sourceColumns (t : TableDef) : List SourceColumn :=
  t.columns.map fun c => { name := c.name, affinity := some c.affinity, collation := c.collation.name }

/-- A view of a source as names see it, from the columns a query gives. -/
def ColumnShape.sourceColumn (c : ColumnShape) : SourceColumn :=
  { name := c.name, affinity := c.affinity, collation := (c.collation.map Collation.name).getD "BINARY" }

/-- Whether a select of a compound names a source among its own sources. -/
def Core.namesSource (c : Core) (name : String) : Bool :=
  match c with
  | .select _ _ items _ _ _ _ => items.any fun (.mk _ _ src _ _) => match src with
    | .table none n _ => sameName n name
    | _ => false
  | .values _ => false

/-- A resolved query standing for nothing, after an error noted. -/
def Resolved.empty : Resolved := { query := default, names := [""], columns := [{ name := "" }], lastTraits := [{}] }

/-- The collations of the columns of a resolved query. -/
def Query.collations : Query → List Collation
  | .compound _ _ cs _ _ _ => cs
  | .recursive _ _ _ cs _ _ _ => cs

namespace Resolve

/-- The message for a name found nowhere or more than once, with its qualifiers. -/
def nameFault (what : String) (schema table : Option String) (name : String) : String :=
  match schema, table with
  | some s, some t => what ++ ": " ++ s ++ "." ++ t ++ "." ++ name
  | _, some t => what ++ ": " ++ t ++ "." ++ name
  | _, none => what ++ ": " ++ name

/-- Looks a name up scope after scope, innermost first: in a scope's sources,
then among its aliases. Gives none when no scope has it. -/
def lookup (env : Env) (schema table : Option String) (name : String) : ResolveM (Option (Term × Traits)) := do
  let mut first := true
  for s in env.scopes do
    match s.find table name with
    | .one t tr => return some (t, tr)
    | .ambiguous =>
      note (nameFault "ambiguous column name" schema table name)
      return some (.value .null, {})
    | .nothing =>
      if table.isNone then
        match s.aliases.find? (fun a => sameName a.1 name) with
        | some (_, t, tr) =>
          if tr.aggregate && !s.aggregates then fail ("misuse of aliased aggregate " ++ name)
          if tr.window && (!s.windows || !first) then fail ("misuse of aliased window function " ++ name)
          return some (t, { tr with columnName := none, baseColumn := none })
        | none => pure ()
    first := false
  return none

/-- Resolves a column reference: a name found, else (unqualified) text for a
name in double quotes, `1` or `0` for `TRUE` or `FALSE`, else an error. -/
def columnRef (env : Env) (schema table : Option String) (name : String) (quoted : Bool) :
    ResolveM (Term × Traits) := do
  let schemaOk := match schema with
    | some s => sameName s "main" || sameName s "temp"
    | none => true
  let found ← if schemaOk then lookup env schema table name else pure none
  match found with
  | some r => pure r
  | none =>
    if table.isNone && quoted then pure (.value (.ofString name), {})
    else if table.isNone && upperWord name == "TRUE" then pure (.value (.integer 1), {})
    else if table.isNone && upperWord name == "FALSE" then pure (.value (.integer 0), {})
    else
      note (nameFault "no such column" schema table name)
      pure (.value .null, {})

/-- The term of a number as written, noting a hexadecimal one that is too big. -/
def numberTerm (text : String) (negated : Bool) : ResolveM (Term × Traits) :=
  match numberValue text negated with
  | .ok d => pure (.value d, {})
  | .error f => do noteLate f; pure (.value .null, {})

/-- The comparer of two operands. -/
def comparer (a b : Traits) : ResolveM Comparer := do
  pure { affinity := Traits.compareAffinity a.affinity b.affinity, collation := ← collation (Traits.compareCollation a b) }

/-- The term of a comparison operator. -/
def compareOp : BinaryOp → CompareOp
  | .lt => .lt | .le => .le | .gt => .gt | .ge => .ge | .ne => .ne | .is => .is | .isNot => .isNot
  | _ => .eq

/-- The term of an arithmetic operator. -/
def arithOp : BinaryOp → ArithOp
  | .concat => .concat | .mul => .mul | .div => .div | .rem => .rem | .add => .add | .sub => .sub
  | .bitAnd => .bitAnd | .bitOr => .bitOr | .shiftLeft => .shiftLeft | _ => .shiftRight

/-- The spec of an ordering term. -/
def orderSpec (coll : Option String) (descending : Bool) (nullsFirst : Option Bool) : ResolveM OrderSpec := do
  pure { collation := ← collation coll, descending, nullsFirst := nullsFirst.getD !descending }

/-- Runs an action without letting its errors count, giving none when it made one. -/
def quietly {α : Type} (act : ResolveM α) : ResolveM (Option α) := do
  let saved ← get
  set { saved with soft := none }
  let r ← tryCatch (some <$> act) (fun _ => pure none)
  let failed := (← get).soft.isSome
  set saved
  pure (if failed then none else r)

/-- The message when two members of a compound differ in their number of columns. -/
def wrongWidth (right : Arm) (op : Option CompoundOp) : String :=
  if right.values then "all VALUES must have the same number of terms"
  else "SELECTs to the left and right of " ++ ((op.map CompoundOp.label).getD "UNION") ++
    " do not have the same number of result columns"

/-- The results a star stands for: every column of every source (but the
columns a `USING` shares, after the first source), or of one source. -/
def starItems (depth : Nat) (srcs : List SourceView) (qualifier : Option String) : ResolveM (List ResultItem) := do
  let visible := srcs.zipIdx.filter fun (s, _) => !s.qualifiedOnly
  let scope : Scope := { depth, sources := srcs }
  let item := fun (s : SourceView) (i j : Nat) =>
    let c := s.columns[j]?.getD default
    let later := srcs.drop (i + 1)
    let (t, tr) : Term × Traits :=
      if qualifier.isNone && later.any (fun l => (l.join == .right || l.join == .full) && l.shared.any (sameName · c.name))
      then match scope.find none c.name with
        | .one t tr => (t, tr)
        | _ => (.column depth i j, s.columnTraits j)
      else (.column depth i j, s.columnTraits j)
    ({ term := t, traits := tr, aliasName := some c.name, span := c.name, written := some c.name } : ResultItem)
  match qualifier with
  | none =>
    if visible.isEmpty then fail "no tables specified"
    pure (visible.flatMap fun (s, i) =>
      (List.range s.columns.length).filterMap fun j =>
        let c := s.columns[j]?.getD default
        if c.hidden || (i > 0 && s.shared.any (sameName · c.name)) then none else some (item s i j))
  | some q =>
    match visible.find? (fun (s, _) => sameName s.name q) with
    | some (s, i) => pure ((List.range s.columns.length).filterMap fun j =>
        if (s.columns[j]?.getD default).hidden then none else some (item s i j))
    | none => fail ("no such table: " ++ q)

/-- The equality a `USING` column of a join adds: the column of the first
source before it that has one, equal to its own. -/
def usingTerm (depth : Nat) (srcs : List SourceView) (i : Nat) (name : String) : ResolveM (Option Term) := do
  let right := srcs[i]?.getD default
  match right.columnIndex? name with
  | none => pure none
  | some jr =>
    match (srcs.take i).zipIdx.findSome? (fun (s, k) => (s.columnIndex? name).map (k, ·)) with
    | none => pure none
    | some (k, jl) =>
      let left := srcs[k]?.getD default
      let c ← comparer (left.columnTraits jl) (right.columnTraits jr)
      pure (some (.compare .eq c (.column depth k jl) (.column depth i jr)))

/-- Conjoins terms. -/
def conjoin : List Term → Option Term
  | [] => none
  | t :: ts => some (ts.foldl Term.and t)

end Resolve

namespace Resolve

/-- One end of a window frame, its offset resolved. -/
def boundPlan (resolve : Expr → ResolveM (Term × Traits)) : FrameBound → ResolveM BoundPlan
  | .unboundedPreceding => pure .unboundedPreceding
  | .preceding e => do pure (.preceding (← resolve e).1)
  | .currentRow => pure .currentRow
  | .following e => do pure (.following (← resolve e).1)
  | .unboundedFollowing => pure .unboundedFollowing

/-- Resolves the ordering of a lone select: each term an alias of a result,
a position, or an expression (the result it equals, else a key of its own). -/
def orderTerms (resolve : Env → Expr → ResolveM (Term × Traits)) (env : Env) (res : List ResultItem)
    (terms : List OrderTerm) : ResolveM (List (OrderKey × OrderSpec) × List Term) := do
  let n := res.length
  let mut out : List (OrderKey × Option String × Bool × Option Bool) := []
  let mut keys : List Term := []
  let mut positions : List (Nat × Nat) := []
  let mut k := 0
  for term in terms do
    let .mk e desc nulls := term
    let s := e.skipCollateAndLikely 64
    let outer := e.outerCollation?
    let byAlias := s.bareName?.bind fun nm =>
      res.findIdx? (fun it => (it.aliasName.map (sameName · nm)).getD false)
    match byAlias with
    | some i => out := out ++ [(.result i, outer <|> (res[i]?.bind (·.traits.collation)), desc, nulls)]
    | none =>
      match s.smallInteger? 64 with
      | some v =>
        if v < 1 || v > 65535 then
          fail (ordinal (k + 1) ++ " ORDER BY term out of range - should be between 1 and " ++ toString n)
        positions := positions ++ [(k, v.toNat)]
        out := out ++ [(.result (v.toNat - 1), outer <|> (res[v.toNat - 1]?.bind (·.traits.collation)), desc, nulls)]
      | none =>
        let (t, tr) ← resolve env e
        settle
        match (res.zipIdx.filter (fun (it, _) => it.term == t)).getLast? with
        | some (it, i) => out := out ++ [(.result i, outer <|> it.traits.collation, desc, nulls)]
        | none =>
          keys := keys ++ [t]
          out := out ++ [(.key (keys.length - 1), tr.collation, desc, nulls)]
    k := k + 1
  for (pos, v) in positions do
    if v > n then fail (ordinal (pos + 1) ++ " ORDER BY term out of range - should be between 1 and " ++ toString n)
  let specs ← out.mapM fun (key, c, d, nl) => do pure (key, ← orderSpec c d nl)
  pure (specs, keys)

/-- Resolves the groups of a select: each term a position or an expression
(the result it equals, else its own); none may hold an aggregate. -/
def groupTerms (resolve : Env → Expr → ResolveM (Term × Traits)) (env : Env) (res : List ResultItem)
    (terms : List Expr) : ResolveM (List (Term × Collation)) := do
  let n := res.length
  let mut out : List (Term × Traits) := []
  let mut positions : List (Nat × Nat) := []
  let mut k := 0
  for e in terms do
    let s := e.skipCollateAndLikely 64
    let outer := e.outerCollation?
    match s.smallInteger? 64 with
    | some v =>
      if v < 1 || v > 65535 then
        fail (ordinal (k + 1) ++ " GROUP BY term out of range - should be between 1 and " ++ toString n)
      positions := positions ++ [(k, v.toNat)]
      let it := res[v.toNat - 1]?.getD default
      out := out ++ [(it.term, { it.traits with collation := outer <|> it.traits.collation })]
    | none =>
      let (t, tr) ← resolve env e
      settle
      match (res.filter (·.term == t)).getLast? with
      | some it => out := out ++ [(it.term, { it.traits with collation := outer <|> it.traits.collation })]
      | none => out := out ++ [(t, tr)]
    k := k + 1
  for (pos, v) in positions do
    if v > n then fail (ordinal (pos + 1) ++ " GROUP BY term out of range - should be between 1 and " ++ toString n)
  if out.any (·.2.aggregate) then fail "aggregate functions are not allowed in the GROUP BY clause"
  out.mapM fun (t, tr) => do pure (t, ← collation tr.collation)

/-- Resolves the ordering of a compound against the results of its members,
the first member first: a position, an alias, or an expression one of them
computes. -/
def compoundOrders (resolve : Env → Expr → ResolveM (Term × Traits)) (env : Env) (arms : List Arm)
    (terms : List OrderTerm) (colls : List (Option String)) : ResolveM (List (OrderKey × OrderSpec)) := do
  let mut done : List (Option Nat) := terms.map fun _ => none
  for a in arms do
    let mut k := 0
    for term in terms do
      if (done[k]?.join).isNone then
        let .mk e _ _ := term
        let s := e.skipCollateAndLikely 64
        match s.smallInteger? 64 with
        | some v =>
          if v ≤ 0 || v > a.items.length then
            fail (ordinal (k + 1) ++ " ORDER BY term out of range - should be between 1 and " ++
              toString a.items.length)
          done := done.set k (some (v.toNat - 1))
        | none =>
          let byAlias := s.bareName?.bind fun nm =>
            a.items.findIdx? (fun it => (it.aliasName.map (sameName · nm)).getD false)
          match byAlias with
          | some i => done := done.set k (some i)
          | none =>
            let env' : Env := { env with scopes := [{ a.scope with aggregates := true, windows := false }],
                                         next := a.scope.depth + 1 }
            match ← quietly (resolve env' s) with
            | some (t, _) =>
              match a.items.findIdx? (·.term == t) with
              | some i => done := done.set k (some i)
              | none => pure ()
            | none => pure ()
      k := k + 1
  let mut out := []
  let mut k := 0
  for term in terms do
    match done[k]?.join with
    | none => fail (ordinal (k + 1) ++ " ORDER BY term does not match any column in the result set")
    | some i =>
      let .mk e desc nulls := term
      let coll := e.outerCollation? <|> (colls[i]?.join)
      out := out ++ [(OrderKey.result i, ← orderSpec coll desc nulls)]
    k := k + 1
  pure out

/-- The text of a `RAISE` message. -/
def raiseText : Option Expr → String
  | some (.literal (.text bs)) => (String.fromUTF8? (ByteArray.mk bs.toArray)).getD ""
  | _ => ""

mutual

/-- Resolves an expression. -/
def expr : Nat → Env → Expr → ResolveM (Term × Traits)
  | 0, _, _ => fail "Expression tree is too large (maximum depth 1000)"
  | fuel + 1, env, e =>
    match e with
    | .literal d => pure (.value d, {})
    | .number t => numberTerm t false
    | .param i => do
      if env.purpose != .query then note ("parameters prohibited in " ++ env.purpose.place)
      pure (.param i, {})
    | .column schema table name => columnRef env schema table name false
    | .quotedName n => columnRef env none none n true
    | .unary .neg (.number t) => numberTerm t true
    | .unary op a => do
      let (t, tr) ← expr fuel env a
      let passive := Traits.combine [tr]
      match op with
      | .neg => pure (.negate t, passive)
      | .bitNot => pure (.bitNot t, passive)
      | .not => pure (.not t, passive)
      | .pos => pure (t, { passive with collation := tr.collation })
    | .binary op a b =>
      match op with
      | .and | .or => do
        let (ta, tra) ← expr fuel env a
        let (tb, trb) ← expr fuel env b
        pure (if op == .and then .and ta tb else .or ta tb, Traits.combine [tra, trb])
      | .extract | .extractValue => do
        let (ta, tra) ← expr fuel env a
        let (tb, trb) ← expr fuel env b
        pure (.call (if op == .extract then "->" else "->>") [ta, tb] .binary, Traits.combine [tra, trb])
      | .lt | .le | .gt | .ge | .eq | .ne => compare fuel env (compareOp op) a b
      | .is | .isNot => do
        match b with
        | .column none none n =>
          let w := upperWord n
          if w == "TRUE" || w == "FALSE" then
            match ← lookup env none none n with
            | none =>
              let (ta, tra) ← expr fuel env a
              pure (.truth ta (w == "TRUE") (op == .isNot), Traits.combine [tra])
            | some _ => compare fuel env (compareOp op) a b
          else compare fuel env (compareOp op) a b
        | _ => compare fuel env (compareOp op) a b
      | _ => do
        let (ta, tra) ← expr fuel env a
        let (tb, trb) ← expr fuel env b
        pure (.arith (arithOp op) ta tb, Traits.combine [tra, trb])
    | .isNull a negated => do
      let (t, tr) ← expr fuel env a
      pure (.isNull t negated, Traits.combine [tr])
    | .between a lo hi negated => do
      let known := match a.width?, lo.width?, hi.width? with
        | some x, some y, some z => some (if x != y then false else x == z)
        | _, _, _ => none
      if known == some false then note "row value misused"
      let va ← vector fuel env a
      let vl ← vector fuel env lo
      let vh ← vector fuel env hi
      let traits := Traits.combine (va.map (·.2) ++ vl.map (·.2) ++ vh.map (·.2))
      let t ← match va, vl, vh with
        | [(ta, tra)], [(tl, trl)], [(th, trh)] => do
          pure (Term.between ta tl th (← comparer tra trl) (← comparer tra trh))
        | _, _, _ =>
          if va.length == vl.length && va.length == vh.length then do
            let c1 ← (va.zip vl).mapM fun ((_, x), (_, y)) => comparer x y
            let c2 ← (va.zip vh).mapM fun ((_, x), (_, y)) => comparer x y
            pure (Term.and (.compareRows .ge c1 (va.map (·.1)) (vl.map (·.1)))
              (.compareRows .le c2 (va.map (·.1)) (vh.map (·.1))))
          else do
            if known.isNone then note "row value misused"
            pure (Term.value .null)
      pure (if negated then .not t else t, traits)
    | .inList a items negated => do
      let (ta, tra) ← expr fuel env a
      let its ← items.mapM (expr fuel env)
      let c : Comparer := { affinity := tra.affinity, collation := ← collation tra.collation }
      pure (.inList ta (its.map (·.1)) c negated, Traits.combine (tra :: its.map (·.2)))
    | .inSelect a q negated => do
      let va ← vector fuel env a
      let r ← subquery fuel env q
      if r.width != va.length then
        noteLate (operational ("sub-select returns " ++ toString r.width ++ " columns - expected " ++
          toString va.length))
      let cs ← (va.zip r.lastTraits).mapM fun ((_, x), y) => do
        let c : Comparer := { affinity := Traits.compareAffinity y.affinity x.affinity,
                              collation := ← collation (Traits.compareCollation x y) }
        pure c
      pure (.inQuery (va.map (·.1)) r.query cs negated, Traits.combine (va.map (·.2)))
    | .pattern op a pat esc negated => do
      let name := match op with
        | .like => "like"
        | .glob => "glob"
        | .regexp => "REGEXP"
        | .fullText => "MATCH"
      let (t, tr) ← call fuel env name false ([pat, a] ++ esc.toList) none none
      pure (if negated then .not t else t, tr)
    | .call name distinct args filter overClause => call fuel env name distinct args filter overClause
    | .callStar name filter overClause => call fuel env name false [] filter overClause
    | .choice operand branches otherwise => do
      let op ← operand.mapM (expr fuel env)
      let bs ← branches.mapM fun (w, t) => do
        let rw ← expr fuel env w
        let rt ← expr fuel env t
        pure (rw, rt)
      let els ← otherwise.mapM (expr fuel env)
      let cs ← match op with
        | some (_, tro) => bs.mapM fun ((_, trw), _) => comparer tro trw
        | none => pure []
      let traits := Traits.combine (op.toList.map (·.2) ++ bs.flatMap (fun ((_, x), (_, y)) => [x, y]) ++
        els.toList.map (·.2))
      pure (.choice (op.map (·.1)) cs (bs.map fun ((w, _), (t, _)) => (w, t)) (els.map (·.1)), traits)
    | .cast a type => do
      let (t, tr) ← expr fuel env a
      let aff := Affinity.ofType type
      pure (.cast t aff, { Traits.combine [tr] with affinity := some aff, collation := tr.collation })
    | .collate a name => do
      let (t, tr) ← expr fuel env a
      pure (t, { tr with collation := some name, explicit := true, columnName := none })
    | .exists q => do
      let r ← subquery fuel env q
      pure (.exists r.query, {})
    | .scalar q => do
      let r ← subquery fuel env q
      if r.width != 1 then
        noteLate (operational ("sub-select returns " ++ toString r.width ++ " columns - expected 1"))
      pure (.scalar r.query 0, { affinity := (r.lastTraits.head?.bind (·.affinity)) })
    | .row items => do
      let its ← items.mapM (expr fuel env)
      noteLate (operational "row value misused")
      pure (.value .null, Traits.combine (its.map (·.2)))
    | .raise kind msg => do
      if !env.trigger then noteLate (operational "RAISE() may only be used within a trigger-program")
      pure (.raise kind (raiseText msg), {})

/-- Resolves an operand that may be a row value: its values one by one. -/
def vector : Nat → Env → Expr → ResolveM (List (Term × Traits))
  | 0, _, _ => fail "Expression tree is too large (maximum depth 1000)"
  | fuel + 1, env, e =>
    match e with
    | .row items => items.mapM (expr fuel env)
    | .scalar q => do
      let r ← subquery fuel env q
      pure ((List.range r.width).map fun i =>
        (Term.scalar r.query i, ({ affinity := (r.lastTraits[i]?.bind (·.affinity)) } : Traits)))
    | _ => do pure [← expr fuel env e]

/-- Resolves a comparison, of values or of row values of one size. -/
def compare : Nat → Env → CompareOp → Expr → Expr → ResolveM (Term × Traits)
  | 0, _, _, _, _ => fail "Expression tree is too large (maximum depth 1000)"
  | fuel + 1, env, op, a, b => do
    let known := match a.width?, b.width? with
      | some x, some y => some (x == y)
      | _, _ => none
    if known == some false then note "row value misused"
    let va ← vector fuel env a
    let vb ← vector fuel env b
    let traits := Traits.combine (va.map (·.2) ++ vb.map (·.2))
    if va.length != vb.length then
      if known.isNone then note "row value misused"
      return (.value .null, traits)
    match va, vb with
    | [(ta, tra)], [(tb, trb)] => pure (.compare op (← comparer tra trb) ta tb, traits)
    | _, _ => do
      let cs ← (va.zip vb).mapM fun ((_, x), (_, y)) => comparer x y
      pure (.compareRows op cs (va.map (·.1)) (vb.map (·.1)), traits)

/-- Resolves a function call: a scalar function, an aggregate of the select,
or a window function. -/
def call : Nat → Env → String → Bool → List Expr → Option Expr → Option Over → ResolveM (Term × Traits)
  | 0, _, _, _, _, _, _ => fail "Expression tree is too large (maximum depth 1000)"
  | fuel + 1, env, name, distinct, args, filter, overClause => do
    let lname := lowerWord name
    let entry := findBuiltin? name args.length
    let mut isAgg := false
    match entry with
    | none =>
      if isBuiltin name then note ("wrong number of arguments to function " ++ name ++ "()")
      else note ("no such function: " ++ name)
    | some b =>
      if lname == "likelihood" && !((args[1]?.map probabilityText).getD false) then
        note ("second argument to " ++ name ++ "() must be a constant between 0.0 and 1.0")
      if !b.constant && (env.purpose == .index || env.purpose == .partialIndex || env.purpose == .generated) then
        note ("non-deterministic functions prohibited in " ++ env.purpose.place)
      let agg := b.kind != .scalar
      if overClause.isSome && b.kind == .scalar then
        note (name ++ "() may not be used as a window function")
      else if (agg && !env.aggregates) || (b.kind == .window && overClause.isNone) || (agg && overClause.isSome && !env.windows) then
        note ("misuse of " ++ (if b.kind == .window || overClause.isSome then "window" else "aggregate") ++
          " function " ++ name ++ "()")
      else if !agg && (filter.isSome || overClause.isSome) then
        note ("FILTER may not be used with non-aggregate " ++ name ++ "()")
      else isAgg := agg
    let argEnv := if isAgg then
        env.mapScope (fun s => { s with windows := false, aggregates := s.aggregates && overClause.isSome })
      else env
    let rs ← args.mapM (expr fuel argEnv)
    let argTraits := Traits.combine (rs.map (·.2))
    let coll ← if (entry.map (·.collates)).getD false || isAgg then
        collation ((rs.find? (·.2.collation.isSome)).bind (·.2.collation))
      else pure .binary
    if isAgg then
      match overClause with
      | some o =>
        let w ← window fuel argEnv lname (rs.map (·.1)) filter o coll
        let slot ← windowSlot env.depth w
        pure (.window env.depth slot, { argTraits with window := true })
      | none =>
        let f ← filter.mapM (expr fuel argEnv)
        if distinct && args.length != 1 then
          noteLate (operational "DISTINCT aggregates must have exactly one argument")
        let a := AggregatePlan.mk lname (rs.map (·.1)) distinct (f.map (·.1)) coll
        let slot ← aggregateSlot env.depth a
        pure (.aggregate env.depth slot, { argTraits with aggregate := true })
    else
      let traits := if lname == "likely" || lname == "unlikely" || lname == "likelihood" then
          { argTraits with baseColumn := rs.head?.bind (·.2.baseColumn) }
        else argTraits
      pure (.call lname (rs.map (·.1)) coll, traits)

/-- Resolves the window of a window function. -/
def window : Nat → Env → String → List Term → Option Expr → Over → Collation → ResolveM WindowPlan
  | 0, _, _, _, _, _, _ => fail "Expression tree is too large (maximum depth 1000)"
  | fuel + 1, env, lname, args, filter, overClause, coll => do
    let defs := (env.scopes.head?.map (·.windowDefs)).getD []
    let spec : Option Window ← match overClause with
      | .named n => match defs.find? (fun d => sameName d.1 n) with
        | some (_, w) => pure (some w)
        | none => do note ("no such window: " ++ n); pure none
      | .spec w =>
        let .mk base partition orders frame := w
        match base with
        | none => pure (some w)
        | some bn => match defs.find? (fun d => sameName d.1 bn) with
          | none => do note ("no such window: " ++ bn); pure none
          | some (_, .mk _ bpart border bframe) => do
            if !partition.isEmpty then note ("cannot override PARTITION clause of window " ++ bn)
            else if !orders.isEmpty && !border.isEmpty then note ("cannot override ORDER BY clause of window " ++ bn)
            else if bframe.isSome then note ("cannot override frame specification of window " ++ bn)
            pure (some (.mk none bpart (if orders.isEmpty then border else orders) frame))
    let .mk _ partition orders frame := spec.getD (.mk none [] [] none)
    let ps ← partition.mapM fun p => do
      let (t, tr) ← expr fuel env p
      pure (t, ← collation tr.collation)
    let os ← orders.mapM fun (.mk oe desc nulls) => do
      let (t, tr) ← expr fuel env oe
      pure (t, ← orderSpec tr.collation desc nulls)
    let f ← filter.mapM (expr fuel env)
    let bare : Env := { env with scopes := [] }
    let (unit, start, finish, exclude) ← match frame with
      | none => pure (FrameUnit.range, BoundPlan.unboundedPreceding, BoundPlan.currentRow, FrameExclude.unstated)
      | some (.mk u s x ex) => do
        let bs ← boundPlan (expr fuel bare) s
        let bx ← boundPlan (expr fuel bare) x
        pure (u, bs, bx, ex)
    pure (.mk lname args (f.map (·.1)) ps os unit start finish exclude coll)

/-- Resolves a sub-query of an expression, where one may stand. -/
def subquery : Nat → Env → Select → ResolveM Resolved
  | 0, _, _ => fail "Expression tree is too large (maximum depth 1000)"
  | fuel + 1, env, q => do
    if env.purpose != .query then
      note ("subqueries prohibited in " ++ env.purpose.place)
      return Resolved.empty
    query fuel env q false

/-- Resolves a select: its paging, its members from the last to the first,
and its ordering. `resolvedNames` names the columns a source sees by the
columns they resolve to, as views and tables made from a select do. -/
def query : Nat → Env → Select → Bool → ResolveM Resolved
  | 0, _, _, _ => fail "Expression tree is too large (maximum depth 1000)"
  | fuel + 1, env, sel, resolvedNames => do
    let .mk _ ctes first rest orders limit offset := sel
    let defs : List CteDef := ctes.map fun (.mk n cols q) =>
      { name := n, columns := cols, select := q, scopes := env.scopes, next := env.next }
    let env : Env := { env with
      defining := env.defining.map fun (n, d) => (n, match d with
        | .working _ => Defining.nested
        | d => d),
      withs := if ctes.isEmpty then env.withs else defs :: env.withs }
    -- paging names nothing
    let bare : Env := { env with scopes := [] }
    let lim ← limit.mapM (expr fuel bare)
    let off ← offset.mapM (expr fuel bare)
    settle
    let arms := Select.arms first rest
    let single := arms.length == 1
    let mut done : List (Option CompoundOp × Arm) := []
    for (op, a) in arms.reverse do
      let r ← arm fuel env a (if single then orders else [])
      match done.head? with
      | some (rop, right) =>
        if r.items.length != right.items.length then fail (wrongWidth right rop)
      | none => pure ()
      done := (op, r) :: done
    let members := done.map (·.2)
    let collNames := armCollations members
    let merges := (done.drop 1).any fun (op, _) => op.getD .unionAll != .unionAll
    let colls ← if merges then collNames.mapM collation else pure (collNames.map fun _ => .binary)
    let ords ← if single then pure ((members.head?.map (·.orders)).getD [])
      else compoundOrders (expr fuel) env members orders collNames
    let firstArm := members.head?.getD default
    let lastArm := members.getLast?.getD default
    let q := Query.compound firstArm.plan ((done.drop 1).map fun (op, a) => (op.getD .unionAll, a.plan)) colls
      ords (lim.map (·.1)) (off.map (·.1))
    let names := firstArm.items.map (·.outputName)
    let columnNames := uniqueNames (firstArm.items.map (ResultItem.sourceName resolvedNames))
    let columns := (columnNames.zip firstArm.items).map fun (n, it) =>
      ({ name := n, affinity := it.traits.affinity, collation := it.traits.collation.bind Collation.ofName? } :
        ColumnShape)
    pure { query := q, names, columns, lastTraits := lastArm.items.map (·.traits) }

/-- Resolves one member of a compound, with the ordering of a lone select. -/
def arm : Nat → Env → ArmSyntax → List OrderTerm → ResolveM Arm
  | 0, _, _, _ => fail "Expression tree is too large (maximum depth 1000)"
  | fuel + 1, env, a, orders => do
    let depth := env.next
    match a with
    | .row items => do
      let scope : Scope := { depth }
      let env1 := env.enter scope
      let mut rs : List ResultItem := []
      let mut i := 0
      for e in items do
        let (t, tr) ← expr fuel env1 e
        settle
        rs := rs ++ [{ term := t, traits := tr, span := "column" ++ toString (i + 1) }]
        i := i + 1
      pure { plan := .values [rs.map (·.term)], items := rs, scope, values := true }
    | .rows rows => do
      let scope : Scope := { depth }
      let env1 := env.enter scope
      let mut out : List (List (Term × Traits)) := []
      for row in rows.reverse do
        let mut rs : List (Term × Traits) := []
        for e in row do
          let r ← expr fuel env1 e
          settle
          rs := rs ++ [r]
        match out.head? with
        | some right => if rs.length != right.length then fail "all VALUES must have the same number of terms"
        | none => pure ()
        out := rs :: out
      let firstRow := out.head?.getD []
      let items := firstRow.zipIdx.map fun ((t, tr), i) =>
        ({ term := t, traits := { tr with columnName := none }, aliasName := some ("column" ++ toString (i + 1)),
           span := "column" ++ toString (i + 1) } : ResultItem)
      pure { plan := .values (out.map (·.map (·.1))), items, scope }
    | .core (.values rows) => arm fuel env (.rows rows) orders
    | .core (.select distinct cols items filter groups having windowDefs) => do
      let joined ← sources fuel env [] items
      let views := joined.map (·.view)
      let base : Scope := { depth, sources := views, aggregates := true, windows := true, windowDefs }
      let ((res, havingT, whereT, onTs, ords, keys, groupsT, aggregated, aliases), slots) ← withSlots depth do
        let env1 := env.enter base
        let mut res : List ResultItem := []
        for c in cols do
          match c with
          | .all => res := res ++ (← starItems depth views none)
          | .allOf t => res := res ++ (← starItems depth views (some t))
          | .expr e al span =>
            let (t, tr) ← expr fuel env1 e
            settle
            res := res ++ [{ term := t, traits := tr, aliasName := al, span,
                             written := (e.skipCollateAndLikely 64).writtenName? }]
        let aggregated := !groups.isEmpty || res.any (·.traits.aggregate)
        let aliases := res.filterMap fun it => it.aliasName.map fun n => (n, it.term, it.traits)
        let scopeA : Scope := { base with aliases, aggregates := aggregated, windows := false }
        let envA := env.enter scopeA
        let havingT ← match having with
          | some h => do
            if !aggregated then fail "HAVING clause on a non-aggregate query"
            let r ← expr fuel envA h
            settle
            pure (some r.1)
          | none => pure none
        let w ← filter.mapM (expr fuel envA)
        let ons ← joined.mapM fun j => j.on.mapM (expr fuel envA)
        settle
        let envO : Env := { env with scopes := [{ scopeA with aggregates := true, windows := true }], next := depth + 1 }
        let (ords, keys) ← orderTerms (expr fuel) envO res orders
        let envG : Env := { env with scopes := [{ scopeA with aggregates := true, windows := false }], next := depth + 1 }
        let gs ← groupTerms (expr fuel) envG res groups
        pure (res, havingT, w.map (·.1), ons.map (Option.map (·.1)), ords, keys, gs, aggregated, aliases)
      let mut joins : List JoinPlan := []
      let mut i := 0
      for j in joined do
        let us ← j.usingColumns.filterMapM (usingTerm depth views i)
        let on := conjoin (us ++ (onTs[i]?.join).toList)
        joins := joins ++ [JoinPlan.mk j.kind j.plan j.view.columns.length on]
        i := i + 1
      let distinctColls ← if distinct then some <$> res.mapM (fun it => collation it.traits.collation)
        else pure none
      pure { plan := .select joins whereT groupsT havingT (res.map (·.term)) keys slots.aggregates slots.windows
                distinctColls aggregated,
             items := res, scope := { base with aliases }, orders := ords }

/-- Resolves the sources of a select, each with how it joins those before it. -/
def sources : Nat → Env → List SourceView → List FromItem → ResolveM (List Joined)
  | 0, _, _, _ => fail "Expression tree is too large (maximum depth 1000)"
  | fuel + 1, env, before, items => do
    let mut out : List Joined := []
    for it in items do
      let .mk kind natural src on usingCols := it
      if out.isEmpty && (on.isSome || usingCols.isSome) then
        fail ("a JOIN clause is required before " ++ (if on.isSome then "ON" else "USING"))
      let (view, plan) ← match src with
        | .function name args aliasName => rowFunction fuel env (before ++ out.map (·.view)) name args aliasName
        | _ => source fuel env src
      let usingNames ← if natural then do
          if on.isSome || usingCols.isSome then fail "a NATURAL join may not have an ON or USING clause"
          pure (view.columns.filterMap fun c =>
            if !c.hidden && out.any (fun o => (o.view.columnIndex? c.name).isSome) then some c.name else none)
        else match usingCols with
          | some cs => do
            for c in cs do
              if (view.columnIndex? c).isNone || !(out.any fun o => (o.view.columnIndex? c).isSome) then
                fail ("cannot join using column " ++ c ++ " - column not present in both tables")
            pure cs
          | none => pure []
      let kind' := if out.isEmpty then JoinKind.inner else kind
      out := out ++ [{ view := { view with join := kind', shared := usingNames }, plan, kind := kind', on,
                       usingColumns := usingNames }]
    pure out

/-- Resolves one source: a common table expression, a view, a stored table,
the schema table, or a sub-query. -/
def source : Nat → Env → Source → ResolveM (SourceView × SourcePlan)
  | 0, _, _ => fail "Expression tree is too large (maximum depth 1000)"
  | fuel + 1, env, src =>
    match src with
    | .table schema name aliasName => do
      let label := aliasName.getD name
      let fromCte ← if schema.isSome then pure none else
        match env.defining.find? (fun d => sameName d.1 name) with
        | some (_, .circular) => fail ("circular reference: " ++ name)
        | some (_, .nested) => fail ("recursive reference in a subquery: " ++ name)
        | some (_, .working cols) => pure (some (({ name := label, columns := cols } : SourceView), SourcePlan.working))
        | none => match env.cte? name with
          | some (c, withs) => do
            let r ← cte fuel env c withs
            pure (some (({ name := label, columns := r.columns.map (·.sourceColumn) } : SourceView),
              SourcePlan.query r.query c.next))
          | none => pure none
      match fromCte with
      | some r => pure r
      | none =>
        let qualified := (schema.map (· ++ ".")).getD "" ++ name
        if !(schema.all fun s => sameName s "main" || sameName s "temp") then fail ("no such table: " ++ qualified)
        match env.store.view? name with
        | some v => do
          let r ← view fuel env.store v
          pure ({ name := label, columns := r.columns.map (·.sourceColumn) }, .query r.query 0)
        | none => match env.store.table? name with
          | some t => pure ({ name := label, columns := t.info.sourceColumns, rowid := t.info.hasRowid,
                              rowidColumn := t.info.rowidColumn }, .table t.info.name)
          | none =>
            if isSchemaTable name then pure ({ name := label, columns := schemaColumns, rowid := true }, .schemaTable)
            else fail ("no such table: " ++ qualified)
    | .query q aliasName => do
      let r ← query fuel env q false
      let label ← match aliasName with
        | some a => pure a
        | none => unnamedSource
      pure ({ name := label, columns := r.columns.map (·.sourceColumn) }, .query r.query env.next)
    | .nested items aliasName => do
      let q := Select.mk false [] (.select false [.all] items none [] none []) [] [] none none
      let r ← query fuel env q false
      let label ← match aliasName with
        | some a => pure a
        | none => unnamedSource
      pure ({ name := label, columns := r.columns.map (·.sourceColumn) }, .query r.query env.next)
    | .function name args aliasName => rowFunction fuel env [] name args aliasName

/-- Resolves a function that gives rows, its arguments seeing the sources
before it in the same `FROM`. -/
def rowFunction : Nat → Env → List SourceView → String → List Expr → Option String →
    ResolveM (SourceView × SourcePlan)
  | 0, _, _, _, _, _ => fail "Expression tree is too large (maximum depth 1000)"
  | fuel + 1, env, before, name, args, aliasName => do
    let canonical := String.ofList (name.toList.map Char.toLower)
    match rowFunctionColumns? canonical with
    | none =>
      if (env.store.table? name).isSome || (env.store.view? name).isSome then fail ("'" ++ name ++ "' is not a function")
      else fail ("no such table: " ++ name)
    | some (shown, hidden) =>
      if args.length > hidden.length then
        fail ("too many arguments on " ++ canonical ++ "() - max " ++ toString hidden.length)
      let env1 := env.enter { depth := env.next, sources := before }
      let mut terms : List Term := []
      for a in args do
        let (t, _) ← expr fuel env1 a
        settle
        terms := terms ++ [t]
      let columns := shown.map (fun n => ({ name := n } : SourceColumn)) ++
        hidden.map fun n => ({ name := n, hidden := true } : SourceColumn)
      pure ({ name := aliasName.getD canonical, columns, rowid := true }, .rows canonical terms)

/-- Resolves a common table expression where it is named: a recursive one
as its first rows and the members run again on each row. -/
def cte : Nat → Env → CteDef → List (List CteDef) → ResolveM Resolved
  | 0, _, _, _ => fail "Expression tree is too large (maximum depth 1000)"
  | fuel + 1, env, c, withs => do
    let .mk _ innerCtes first rest orders limit offset := c.select
    let base : Env := { env with scopes := c.scopes, next := c.next, withs := withs }
    let lastOp := rest.getLast?.map (·.1)
    let mayRecurse := lastOp == some .union || lastOp == some .unionAll
    let steps := if mayRecurse then
        (rest.reverse.takeWhile fun (op, core) => some op == lastOp && core.namesSource c.name).reverse
      else []
    let width := fun (r : Resolved) => r.width
    let named : Resolved → ResolveM (List ColumnShape) := fun r => do
      if !c.columns.isEmpty && c.columns.length != width r then
        fail ("table " ++ c.name ++ " has " ++ toString (width r) ++ " values for " ++ toString c.columns.length ++
          " columns")
      let names := if c.columns.isEmpty then r.columns.map (·.name) else uniqueNames c.columns
      pure ((names.zip r.columns).map fun (n, col) => { col with name := n })
    if steps.isEmpty then
      let r ← query fuel { base with defining := (c.name, .circular) :: base.defining } c.select false
      pure { r with columns := ← named r }
    else
      let seedRest := rest.take (rest.length - steps.length)
      let seedSel := Select.mk false innerCtes first seedRest [] none none
      let seed ← query fuel { base with defining := (c.name, .circular) :: base.defining } seedSel false
      let columns : List ColumnShape ← named seed
      let cols := columns.map (·.sourceColumn)
      let innerDefs : List CteDef := innerCtes.map fun (.mk n cs q) =>
        { name := n, columns := cs, select := q, scopes := base.scopes, next := base.next }
      let stepEnv : Env := { base with defining := (c.name, .working cols) :: base.defining,
                                       withs := if innerCtes.isEmpty then base.withs else innerDefs :: base.withs }
      let mut stepQueries : List Query := []
      for (op, core) in steps do
        let a ← arm fuel stepEnv (.core core) []
        if a.items.length != width seed then
          fail ("SELECTs to the left and right of " ++ op.label ++ " do not have the same number of result columns")
        stepQueries := stepQueries ++ [Query.compound a.plan [] seed.query.collations [] none none]
      let bare : Env := { base with scopes := [] }
      let lim ← limit.mapM (expr fuel bare)
      let off ← offset.mapM (expr fuel bare)
      settle
      let mut ords : List (Nat × OrderSpec) := []
      let mut k := 0
      for (.mk e desc nulls) in orders do
        let s := e.skipCollateAndLikely 64
        let idx := match s.smallInteger? 64 with
          | some v => if 1 ≤ v && v ≤ width seed then some (v.toNat - 1) else none
          | none => s.bareName?.bind fun nm => columns.findIdx? (fun (col : ColumnShape) => sameName col.name nm)
        match idx with
        | some i =>
          let coll := e.outerCollation? <|> ((columns[i]?.bind (·.collation)).map Collation.name)
          ords := ords ++ [(i, ← orderSpec coll desc nulls)]
        | none => fail (ordinal (k + 1) ++ " ORDER BY term does not match any column in the result set")
        k := k + 1
      let q := Query.recursive seed.query stepQueries (lastOp == some .union) seed.query.collations ords
        (lim.map (·.1)) (off.map (·.1))
      pure { seed with query := q, columns := columns }

/-- Resolves a view from its own text, its columns named as it declares them. -/
def view : Nat → Store → ViewDef → ResolveM Resolved
  | 0, _, _ => fail "Expression tree is too large (maximum depth 1000)"
  | fuel + 1, store, v => do
    let r ← query fuel { store } v.query true
    let names := if v.columns.isEmpty then r.columns.map (·.name) else uniqueNames v.columns
    pure { r with columns := (names.zip r.columns).map fun (n, col) => { col with name := n } }

end

end Resolve

end SqlMapper.Database
