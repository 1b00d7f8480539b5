import SqlMapper.Database.Plan

/-!
# Ordering rows

An ordering term puts `NULL` first or last as it says, whatever its
direction, and orders other values by its collation, reversed when it
descends. Rows of keys compare term by term. Sorting is stable: rows that
compare equal keep the order they came in, as the database's sorter keeps
them.

Grouping, `DISTINCT` and the compound operators take two `NULL`s as the same
value, and other values as the same when their collation finds them equal.
-/

namespace SqlMapper.Database

/-- Compares two values under an ordering term. -/
def OrderSpec.compareValues (s : OrderSpec) (a b : Datum) : Ordering :=
  match a.isNull, b.isNull with
  | true, true => .eq
  | true, false => if s.nullsFirst then .lt else .gt
  | false, true => if s.nullsFirst then .gt else .lt
  | false, false =>
    let o := a.compareWith s.collation b
    if s.descending then o.swap else o

/-- Compares two rows of keys term by term. -/
def compareKeys : List OrderSpec → List Datum → List Datum → Ordering
  | s :: ss, a :: as, b :: bs =>
    match s.compareValues a b with
    | .eq => compareKeys ss as bs
    | o => o
  | _, _, _ => .eq

/-- Sorts items by their keys, stably. -/
def sortByKeys {α : Type} (specs : List OrderSpec) (key : α → List Datum) (xs : List α) : List α :=
  xs.mergeSort fun a b => compareKeys specs (key a) (key b) != .gt

/-- The ascending ordering terms of a list of collations. -/
def ascendingBy (colls : List Collation) : List OrderSpec :=
  colls.map fun c => { collation := c }

/-- Whether two values are the same for grouping: both `NULL`, or equal under a collation. -/
def sameUnder (c : Collation) (a b : Datum) : Bool :=
  if a.isNull || b.isNull then a.isNull && b.isNull else a.compareWith c b == .eq

/-- Whether two rows are the same for grouping, value by value, each under its collation. -/
def sameRow (colls : List Collation) (as bs : List Datum) : Bool :=
  as.length == bs.length &&
    (as.zip bs).zipIdx.all fun ((a, b), i) => sameUnder (colls[i]?.getD .binary) a b

/-- Splits a list into runs of neighbours that belong together, each item
compared with the one before it. -/
def runs {α : Type} (same : α → α → Bool) : List α → List (List α)
  | [] => []
  | x :: rest =>
    match runs same rest with
    | (y :: ys) :: more => if same x y then (x :: y :: ys) :: more else [x] :: (y :: ys) :: more
    | _ => [[x]]

/-- Keeps the first of each run of neighbours that belong together. -/
def dedupeNeighbours {α : Type} (same : α → α → Bool) (xs : List α) : List α :=
  (runs same xs).filterMap List.head?

/-- Keeps the first of the items that belong together, wherever they stand. -/
def dedupeFirst {α : Type} (same : α → α → Bool) (xs : List α) : List α :=
  xs.foldl (fun acc x => if acc.any (same · x) then acc else acc ++ [x]) []

end SqlMapper.Database
