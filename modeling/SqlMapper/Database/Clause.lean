import SqlMapper.Database.Plan

/-!
# The clauses of a filter

The planner reads a select's filter as a list of clauses: the terms its
`AND`s join, then the terms of the joins' `ON` conditions in the order of the
joins. A clause that compares a column of one of the select's sources with a
value that does not read that source bounds the column: by equality, `IS`,
`IS NULL`, a list or a query of values, or one end of a range. Such a clause
can drive an index on the column.

Some clauses bring others with them, derived from them and placed after all
the clauses the filter wrote, the last written clause's first:

* a comparison of two columns also bounds the column on its right, read the
  other way round; when both columns compare alike, the two are equivalent,
  so that a bound on one bounds the other;
* `x BETWEEN a AND b` brings its two ends, `x >= a` and `x <= b`;
* equalities of one column joined by `OR` bring `x IN (…)` of their values.

A clause of the `ON` condition of a `LEFT JOIN` belongs to that join: it can
only bound the joined source, and only once every source before it is read.

Sources are numbered in the order the select names them, and a set of them
is a mask with bit `i` for source `i`.
-/

namespace SqlMapper.Database

/-- A column of a source as the planner reads it: the row number, or a stored column. -/
inductive Slot where
  | rowid
  | column (index : Nat)
  deriving DecidableEq, Inhabited

/-- How a clause bounds a column. -/
inductive Bound where
  | eq | is | isNull
  /-- Equal to one of a list of values, as many as the list holds. -/
  | inList (count : Nat)
  /-- Equal to one of the rows of a query. -/
  | inQuery
  | lt | le | gt | ge
  deriving DecidableEq, Inhabited

namespace Bound

/-- Whether the bound is `=` or `IS`. -/
def isEquality : Bound → Bool
  | .eq | .is => true
  | _ => false

/-- Whether the bound is one of a set of values. -/
def isMembership : Bound → Bool
  | .inList _ | .inQuery => true
  | _ => false

/-- Whether the bound is a lower end of a range. -/
def isLower : Bound → Bool
  | .gt | .ge => true
  | _ => false

/-- Whether the bound is an upper end of a range. -/
def isUpper : Bound → Bool
  | .lt | .le => true
  | _ => false

/-- The bound read with its two sides swapped. -/
def flip : Bound → Bound
  | .lt => .gt
  | .le => .ge
  | .gt => .lt
  | .ge => .le
  | b => b

end Bound

/-- A clause of a select's filter as the planner reads it. -/
structure Clause where
  /-- The term itself. -/
  term : Term
  /-- The sources the clause reads, its own join's source included when it belongs to one. -/
  reads : Nat
  /-- The sources that must be read before the clause can bound its column. -/
  others : Nat := 0
  /-- The column the clause speaks of, when one side of it is a column of a source. -/
  target : Option (Nat × Slot) := none
  /-- How it bounds that column, when it can drive an index on it. -/
  bound : Option Bound := none
  /-- The column it makes equivalent to its target, when it equates two columns that compare alike. -/
  peer : Option (Nat × Slot) := none
  /-- The other side, when that is a column of a source. -/
  otherColumn : Option (Nat × Slot) := none
  /-- How the comparison treats its operands. -/
  comparer : Comparer := {}
  /-- Whether the other side is an integer from -1 to 1. -/
  smallOther : Bool := false
  /-- The clause it was derived from, when it was. -/
  parent : Option Nat := none
  /-- The source whose `LEFT JOIN` it belongs to. -/
  outerOf : Option Nat := none
  deriving Inhabited

/-- The mask of one source. -/
def sourceBit (i : Nat) : Nat := 1 <<< i

/-- Whether a mask holds every source of another. -/
def maskCovers (m sub : Nat) : Bool := (m ||| sub) == m

mutual

/-- The columns of the select at a depth that a term reads, each as its
source and its column (none for the row number); with `deep`, those its
sub-queries read too. -/
def Term.readsAt : Nat → Bool → Nat → Term → List (Nat × Option Nat)
  | 0, _, _, _ => []
  | fuel + 1, deep, d, t =>
    match t with
    | .column s src k => if s == d then [(src, some k)] else []
    | .rowid s src => if s == d then [(src, none)] else []
    | .negate a | .bitNot a | .not a | .isNull a _ | .truth a _ _ | .cast a _ => Term.readsAt fuel deep d a
    | .arith _ a b | .and a b | .or a b | .compare _ _ a b =>
      Term.readsAt fuel deep d a ++ Term.readsAt fuel deep d b
    | .compareRows _ _ as bs => (as ++ bs).flatMap (Term.readsAt fuel deep d)
    | .between a lo hi _ _ => [a, lo, hi].flatMap (Term.readsAt fuel deep d)
    | .inList a items _ _ => (a :: items).flatMap (Term.readsAt fuel deep d)
    | .inQuery ts q _ _ =>
      ts.flatMap (Term.readsAt fuel deep d) ++ (if deep then Query.readsAt fuel d q else [])
    | .call _ args _ => args.flatMap (Term.readsAt fuel deep d)
    | .choice op _ bs other =>
      (op.toList ++ bs.flatMap (fun (a, b) => [a, b]) ++ other.toList).flatMap (Term.readsAt fuel deep d)
    | .exists q | .scalar q _ => if deep then Query.readsAt fuel d q else []
    | _ => []

/-- The columns of the select at a depth that a query reads. -/
def Query.readsAt : Nat → Nat → Query → List (Nat × Option Nat)
  | 0, _, _ => []
  | fuel + 1, d, q =>
    match q with
    | .compound first rest _ _ limit offset =>
      CorePlan.readsAt fuel d first ++ rest.flatMap (fun (_, c) => CorePlan.readsAt fuel d c) ++
        (limit.toList ++ offset.toList).flatMap (Term.readsAt fuel true d)
    | .recursive seed steps _ _ _ limit offset =>
      Query.readsAt fuel d seed ++ steps.flatMap (Query.readsAt fuel d) ++
        (limit.toList ++ offset.toList).flatMap (Term.readsAt fuel true d)

/-- The columns of the select at a depth that one select of a compound reads. -/
def CorePlan.readsAt : Nat → Nat → CorePlan → List (Nat × Option Nat)
  | 0, _, _ => []
  | fuel + 1, d, c =>
    match c with
    | .values rows => rows.flatten.flatMap (Term.readsAt fuel true d)
    | .select joins filter groups having results keys aggs wins _ _ =>
      let fromJoins := joins.flatMap fun j => match j with
        | .mk _ src _ on =>
          let fromSource := match src with
            | .query q _ => Query.readsAt fuel d q
            | .rows _ args => args.flatMap (Term.readsAt fuel true d)
            | _ => []
          fromSource ++ on.toList.flatMap (Term.readsAt fuel true d)
      let fromAggs := aggs.flatMap fun a => match a with
        | .mk _ args _ f _ => (args ++ f.toList).flatMap (Term.readsAt fuel true d)
      let fromWins := wins.flatMap fun w => match w with
        | .mk _ args f partition orders _ start finish _ _ =>
          let ends := [start, finish].flatMap fun b => match b with
            | .preceding t | .following t => [t]
            | _ => []
          (args ++ f.toList ++ partition.map (·.1) ++ orders.map (·.1) ++ ends).flatMap
            (Term.readsAt fuel true d)
      fromJoins ++ (filter.toList ++ groups.map (·.1) ++ having.toList ++ results ++ keys).flatMap
        (Term.readsAt fuel true d) ++ fromAggs ++ fromWins

end

/-- The fuel that reading a term's columns takes: more than any plan nests. -/
def readsFuel : Nat := 10000

/-- The sources of the select at a depth that a term reads. -/
def Term.sourcesAt (d : Nat) (t : Term) : Nat :=
  (t.readsAt readsFuel true d).foldl (fun m (s, _) => m ||| sourceBit s) 0

/-- Whether a term is a constant: a value or a parameter, negated or cast at most. -/
def Term.isConstant : Term → Bool
  | .value _ | .param _ => true
  | .negate t | .cast t _ => t.isConstant
  | _ => false

/-- Whether a term is an integer from -1 to 1 as written. -/
def Term.isSmallInteger : Term → Bool
  | .value (.integer n) => -1 ≤ n && n ≤ 1
  | .negate (.value (.integer n)) => -1 ≤ n && n ≤ 1
  | _ => false

/-- The terms an `AND` joins, left to right. -/
def Term.conjuncts : Term → List Term
  | .and a b => a.conjuncts ++ b.conjuncts
  | t => [t]

/-- The terms an `OR` joins, left to right. -/
def Term.disjuncts : Term → List Term
  | .or a b => a.disjuncts ++ b.disjuncts
  | t => [t]

/-- What the planner knows of a select's sources: their tables, and the depth of the select. -/
structure SourceTables where
  depth : Nat
  tables : List TableDef

namespace SourceTables

/-- The column a term is, when it is a column of one of the sources; the
column that holds the row number is the row number. -/
def slotOf (st : SourceTables) : Term → Option (Nat × Slot)
  | .column s src k =>
    if s != st.depth then none
    else if (st.tables[src]?.bind (·.rowidColumn)) == some k then some (src, .rowid)
    else some (src, .column k)
  | .rowid s src => if s == st.depth then some (src, .rowid) else none
  | _ => none

/-- The affinity of a column of a source: the row number is an integer. -/
def affinityOf (st : SourceTables) : Nat × Slot → Affinity
  | (_, .rowid) => .integer
  | (src, .column k) => ((st.tables[src]?.map (·.column k)).map (·.affinity)).getD .blob

/-- The collation of a column of a source. -/
def collationOf (st : SourceTables) : Nat × Slot → Collation
  | (_, .rowid) => .binary
  | (src, .column k) => ((st.tables[src]?.map (·.column k)).map (·.collation)).getD .binary

/-- The affinity a term has as an operand: a column's, a cast's, or none. -/
def termAffinity (st : SourceTables) (t : Term) : Option Affinity :=
  match st.slotOf t with
  | some c => some (st.affinityOf c)
  | none =>
    match t with
    | .cast _ a => some a
    | _ => none

/-- Whether an equality of two columns makes them equivalent: neither side of
an outer join, both of one affinity or both numeric, and compared by their
own collation or a binary one. -/
def equates (st : SourceTables) (c : Comparer) (a b : Nat × Slot) : Bool :=
  let x := st.affinityOf a
  let y := st.affinityOf b
  (x == y || (x.isNumeric && y.isNumeric)) &&
    (c.collation == .binary || (st.collationOf a == c.collation && st.collationOf b == c.collation))

end SourceTables

/-- A comparison as the planner reads it: the bound, the side that may be a
column, the other side, and how they compare. -/
structure Comparison where
  bound : Bound
  left : Term
  right : Option Term
  /-- The sources the other side reads. -/
  rightReads : Nat
  comparer : Comparer

/-- The comparison a term is, when it is one the planner reads. -/
def comparisonOf (d : Nat) : Term → Option Comparison
  | .compare op c a b =>
    let bound? : Option Bound := match op with
      | .eq => some .eq | .lt => some .lt | .le => some .le | .gt => some .gt | .ge => some .ge
      | .is => some .is | _ => none
    bound?.map fun bd =>
      if bd == .is && b == .value .null then { bound := .isNull, left := a, right := none, rightReads := 0, comparer := c }
      else { bound := bd, left := a, right := some b, rightReads := b.sourcesAt d, comparer := c }
  | .isNull a false => some { bound := .isNull, left := a, right := none, rightReads := 0, comparer := {} }
  | .inList a [x] c false =>
    if x.isConstant then some { bound := .eq, left := a, right := some x, rightReads := 0, comparer := c }
    else some { bound := .inList 1, left := a, right := none, rightReads := x.sourcesAt d, comparer := c }
  | .inList a items c false =>
    if items.isEmpty then none
    else some { bound := .inList items.length, left := a, right := none,
                rightReads := items.foldl (fun m x => m ||| x.sourcesAt d) 0, comparer := c }
  | .inQuery [a] q cs false =>
    some { bound := .inQuery, left := a, right := none,
           rightReads := (Query.readsAt readsFuel d q).foldl (fun m (s, _) => m ||| sourceBit s) 0,
           comparer := cs.headD {} }
  | _ => none

namespace SourceTables

/-- A clause read from a comparison, with the clause of the comparison read
the other way round when its other side is a column too. -/
def readComparison (st : SourceTables) (base : Clause) (cmp : Comparison) (index : Nat) :
    Clause × List Clause :=
  let leftReads := cmp.left.sourcesAt st.depth
  let usable := leftReads &&& cmp.rightReads == 0
  let extra := match base.outerOf with
    | some j => sourceBit j - 1
    | none => 0
  let leftSlot := st.slotOf cmp.left
  let rightSlot := cmp.right.bind st.slotOf
  let base := { base with comparer := cmp.comparer, others := cmp.rightReads ||| extra,
                          smallOther := (cmp.right.map Term.isSmallInteger).getD false }
  let base := match leftSlot with
    | some ls => { base with target := some ls, bound := if usable then some cmp.bound else none,
                             otherColumn := rightSlot }
    | none => base
  match rightSlot with
  | some rs =>
    match leftSlot with
    | some ls =>
      let same := (cmp.bound == .eq || cmp.bound == .is) && base.outerOf.isNone &&
        st.equates cmp.comparer ls rs
      let base := if same then { base with peer := some rs } else base
      let swapped : Clause :=
        { base with target := some rs, bound := if usable then some cmp.bound.flip else none,
                    peer := if same then some ls else none, otherColumn := some ls,
                    others := leftReads ||| extra, smallOther := cmp.left.isSmallInteger,
                    parent := some index }
      (base, [swapped])
    | none =>
      ({ base with target := some rs, bound := if usable then some cmp.bound.flip else none,
                   others := leftReads ||| extra, smallOther := cmp.left.isSmallInteger,
                   otherColumn := none }, [])
  | none => (base, [])

/-- The membership clause that equalities of one column joined by `OR` amount
to: every one equates the same column with a value that does not read its
source and has no affinity of its own other than the column's. -/
def orAsMembership (st : SourceTables) (t : Term) : Option (Nat × Slot × List Term) :=
  let sides := (t.disjuncts).map fun x => match x with
    | .compare .eq _ a b => some (a, b)
    | _ => none
  if sides.any Option.isNone || sides.length < 2 then none
  else
    let pairs := sides.filterMap id
    let candidates := match pairs.head? with
      | some (a, b) => [st.slotOf a, st.slotOf b].filterMap id
      | none => []
    let valueFor := fun (c : Nat × Slot) (ab : Term × Term) =>
      let (a, b) := ab
      let fits := fun (v : Term) =>
        v.sourcesAt st.depth &&& sourceBit c.1 == 0 &&
          match st.termAffinity v with
          | some x => x == st.affinityOf c
          | none => true
      if st.slotOf a == some c && fits b then some b
      else if st.slotOf b == some c && fits a then some a
      else none
    candidates.findSome? fun c =>
      let values := pairs.map (valueFor c)
      if values.all Option.isSome then some (c.1, c.2, values.filterMap id) else none

end SourceTables

/-- The fuel that reading one clause takes: enough for the clauses it brings. -/
def clauseFuel : Nat := 4

namespace SourceTables

/-- Reads the clause at a place of the list, appending those it brings. -/
def analyze (st : SourceTables) : Nat → Array Clause → Nat → Array Clause
  | 0, cs, _ => cs
  | fuel + 1, cs, i =>
    let c := cs[i]?.getD default
    let reads := c.term.sourcesAt st.depth ||| (c.outerOf.map sourceBit).getD 0
    let c := { c with reads }
    let extra := match c.outerOf with
      | some j => sourceBit j - 1
      | none => 0
    match comparisonOf st.depth c.term with
    | some cmp =>
      let (base, more) := st.readComparison c cmp i
      let cs := cs.set! i base
      more.foldl (fun acc m => acc.push m) cs
    | none =>
      let cs := cs.set! i { c with others := extra }
      match c.term with
      | .between a lo hi low high =>
        let ends : List Term := [.compare .ge low a lo, .compare .le high a hi]
        ends.foldl (fun acc e =>
          let j := acc.size
          let acc := acc.push { term := e, reads := 0, parent := some i, outerOf := c.outerOf }
          st.analyze fuel acc j) cs
      | .or _ _ =>
        match st.orAsMembership c.term with
        | some (src, slot, values) =>
          let left : Term := match slot with
            | .rowid => .rowid st.depth src
            | .column k => .column st.depth src k
          let cmp : Comparer := { affinity := some (st.affinityOf (src, slot)), collation := st.collationOf (src, slot) }
          let j := cs.size
          let cs := cs.push { term := .inList left values cmp false, reads := 0, parent := some i, outerOf := c.outerOf }
          st.analyze fuel cs j
        | none => cs
      | _ => cs

/-- The clauses of a filter's terms, each with the source whose outer join
it belongs to: the terms first, then what they bring, the last term's first. -/
def clausesOf (st : SourceTables) (terms : List (Term × Option Nat)) : Array Clause :=
  let base : Array Clause := (terms.map fun (t, o) => ({ term := t, reads := 0, outerOf := o } : Clause)).toArray
  (List.range terms.length).reverse.foldl (fun cs i => st.analyze clauseFuel cs i) base

end SourceTables

end SqlMapper.Database
