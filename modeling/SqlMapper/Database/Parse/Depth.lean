import SqlMapper.Database.Parse.Basic

/-!
# The depth of an expression

The database refuses an expression nested more than a thousand levels deep.
Its measure counts one for a leaf and one more than the deepest part for an
operator, a call, a `CASE`, a cast or a sub-query, whose depth is that of its
deepest expression (result columns, filter, grouping, having, ordering and
paging of every select in it). Two forms start again from one: a collation
and a row value, whose parts the measure does not look into. A negated
`IN`, `LIKE` or `BETWEEN` is a negation over the positive form, one level
more.

The reader measures each operator as it builds it, so the first node too deep
fails, at the point of the text where it ends.
-/

namespace SqlMapper.Database

/-- The deepest nesting the database accepts. -/
def maxDepth : Nat := 1000

mutual

/-- The depth of an expression, within a bound on how far to look. -/
def Expr.depth : Nat → Expr → Nat
  | 0, _ => 0
  | fuel + 1, e =>
    match e with
    | .literal _ | .number _ | .param _ | .column .. | .quotedName _ | .callStar .. | .row _ | .raise ..
    | .collate .. => 1
    | .unary _ a | .isNull a _ | .cast a _ => a.depth fuel + 1
    | .binary _ a b => max (a.depth fuel) (b.depth fuel) + 1
    | .between a lo hi neg =>
      max (a.depth fuel) (max (lo.depth fuel) (hi.depth fuel)) + 1 + (if neg then 1 else 0)
    | .inList a items neg => max (a.depth fuel) (Expr.listDepth fuel items) + 1 + (if neg then 1 else 0)
    | .inSelect a q neg => max (a.depth fuel) (Select.depth fuel q) + 1 + (if neg then 1 else 0)
    | .pattern _ a p esc neg =>
      max (max (a.depth fuel) (p.depth fuel)) ((esc.map (Expr.depth fuel)).getD 0) + 1 + (if neg then 1 else 0)
    | .call _ _ args _ _ => Expr.listDepth fuel args + 1
    | .choice op branches other =>
      let b := branches.foldl (fun m (w, t) => max m (max (w.depth fuel) (t.depth fuel))) 0
      max (max ((op.map (Expr.depth fuel)).getD 0) b) ((other.map (Expr.depth fuel)).getD 0) + 1
    | .exists q | .scalar q => Select.depth fuel q + 1

/-- The depth of the deepest of several expressions, zero for none. -/
def Expr.listDepth : Nat → List Expr → Nat
  | 0, _ => 0
  | fuel + 1, es => es.foldl (fun m e => max m (e.depth fuel)) 0

/-- The depth of a select: that of its deepest expression. -/
def Select.depth : Nat → Select → Nat
  | 0, _ => 0
  | fuel + 1, .mk _ _ first rest orders limit offset =>
    let cores := (first :: rest.map (·.2)).foldl (fun m c => max m (Core.depth fuel c)) 0
    let ords := Expr.listDepth fuel (orders.map fun | .mk e _ _ => e)
    let paging := match limit with
      | some l => max (l.depth fuel) ((offset.map (Expr.depth fuel)).getD 0) + 1
      | none => 0
    max cores (max ords paging)

/-- The depth of one select of a compound. -/
def Core.depth : Nat → Core → Nat
  | 0, _ => 0
  | fuel + 1, .select _ columns _ filter groups having _ =>
    let cols := columns.foldl (fun m c => match c with
      | .expr e _ _ => max m (e.depth fuel)
      | _ => max m 1) 0
    let opt := fun (o : Option Expr) => (o.map (Expr.depth fuel)).getD 0
    max cols (max (opt filter) (max (Expr.listDepth fuel groups) (opt having)))
  | fuel + 1, .values rows => rows.foldl (fun m r => max m (Expr.listDepth fuel r)) 0

end

namespace Parse

/-- The fault of an expression nested too deeply. -/
def tooDeep : Fault :=
  operational ("Expression tree is too large (maximum depth " ++ toString maxDepth ++ ")")

/-- An expression just built, refused when it is nested too deeply. -/
def deep (e : Expr) : ParseM Expr :=
  if e.depth (3 * maxDepth + 10) > maxDepth then throw tooDeep else pure e

end Parse

end SqlMapper.Database
