import SqlMapper.Value.Show

/-!
# Equality of values

Two values are equal when they stand for the same thing: numbers of any kind
(booleans, integers, floats, decimals) when their exact values agree, a NaN
equal to nothing; calendar values of one kind when they agree, aware ones as
instants, and never an aware one with a naive one; sequences of one kind item
by item; sets and dictionaries regardless of order; members and instances of
the same class with equal contents. Values of different kinds differ.

Sets keep the first of several equal items (`Value.distinct`).
-/

namespace SqlMapper

open SqlMapper.Number SqlMapper.Calendar

/-- A number as `num · 2^twos · 10^tens`. -/
structure Exact where
  num : Int
  twos : Int
  tens : Int

/-- The integer `x · 2^(twos - p) · 10^(tens - q)` for `p ≤ twos` and `q ≤ tens`. -/
def Exact.scaled (x : Exact) (p q : Int) : Int :=
  x.num * Int.pow 2 (x.twos - p).toNat * Int.pow 10 (x.tens - q).toNat

/-- Whether two exact numbers are equal. -/
def Exact.same (a b : Exact) : Bool :=
  let p := min a.twos b.twos
  let q := min a.tens b.tens
  a.scaled p q == b.scaled p q

/-- What a number is, for comparison. -/
inductive NumView where
  | exact (x : Exact)
  | infinite (negative : Bool)
  | nan

/-- Whether two numbers are equal. -/
def NumView.same : NumView → NumView → Bool
  | .exact a, .exact b => a.same b
  | .infinite a, .infinite b => a == b
  | _, _ => false

/-- The number a value stands for, if it is one. -/
def Value.numView? : Value → Option NumView
  | .bool b => some (.exact ⟨if b then 1 else 0, 0, 0⟩)
  | .int n => some (.exact ⟨n, 0, 0⟩)
  | .float x =>
    match classify x with
    | .nan => some .nan
    | .infinite neg => some (.infinite neg)
    | .zero _ => some (.exact ⟨0, 0, 0⟩)
    | .finite neg b => some (.exact ⟨if neg then -(b.mantissa : Int) else b.mantissa, b.exponent, 0⟩)
  | .decimal (.finite neg coeff e) => some (.exact ⟨if neg then -(coeff : Int) else coeff, 0, e⟩)
  | .decimal (.infinite neg) => some (.infinite neg)
  | .decimal (.nan ..) => some .nan
  | _ => Option.none

/-- Whether two times of day are equal: both naive and reading alike, or both
aware and the same instant of the day. -/
def Calendar.TimeOfDay.same (a b : TimeOfDay) : Bool :=
  match a.offset, b.offset with
  | none, none => a.micros == b.micros
  | some oa, some ob => a.micros - oa == b.micros - ob
  | _, _ => false

/-- Whether two dates and times are equal: both naive and reading alike, or both aware and the same instant. -/
def Calendar.DateTime.same (a b : DateTime) : Bool :=
  match a.time.offset, b.time.offset with
  | none, none => a.localMicros == b.localMicros
  | some oa, some ob => a.localMicros - oa == b.localMicros - ob
  | _, _ => false

mutual

/-- Nesting depth of a value. -/
def Value.depth : Value → Nat
  | .tuple items | .list items | .set items => Value.depthList items + 1
  | .dict entries => Value.depthEntries entries + 1
  | .member _ _ v => v.depth + 1
  | .object _ fields => Value.depthFields fields + 1
  | .fragment f => f.depth + 1
  | .query p => p.depth + 1
  | _ => 1

/-- Greatest depth of items. -/
def Value.depthList : List Value → Nat
  | [] => 0
  | v :: rest => max v.depth (Value.depthList rest)

/-- Greatest depth of dictionary entries. -/
def Value.depthEntries : List (Value × Value) → Nat
  | [] => 0
  | (k, v) :: rest => max (max k.depth v.depth) (Value.depthEntries rest)

/-- Greatest depth of set fields. -/
def Value.depthFields : List (String × Option Value) → Nat
  | [] => 0
  | (_, some v) :: rest => max v.depth (Value.depthFields rest)
  | (_, none) :: rest => Value.depthFields rest

/-- Nesting depth of a fragment. -/
def Fragment.depth : Fragment → Nat
  | .within items => Value.depthList items + 1
  | .template _ args _ => Value.depthList args + 1
  | .group conds _ => Fragment.depthGroup conds + 1
  | _ => 1

/-- Greatest depth of fragments. -/
def Fragment.depthGroup : List Fragment → Nat
  | [] => 0
  | f :: rest => max f.depth (Fragment.depthGroup rest)

/-- Nesting depth of a query step, its arguments and nested steps included. -/
def Step.depth : Step → Nat
  | .call _ args => Value.depthList args + 1
  | .group sep steps => max sep.depth (Step.depthList steps) + 1
  | .apply steps => Step.depthList steps + 1
  | .relation args (some steps) => max (Value.depthList args) (Step.depthList steps) + 1
  | .relation args none => Value.depthList args + 1
  | .broken _ => 1

/-- Greatest depth of steps. -/
def Step.depthList : List Step → Nat
  | [] => 0
  | s :: rest => max s.depth (Step.depthList rest)

/-- Nesting depth of a query plan. -/
def Plan.depth : Plan → Nat
  | .mk _ steps => Step.depthList steps + 1

end

mutual

/-- Equality of values, looking `fuel` levels deep. -/
def Value.sameUpTo : Nat → Value → Value → Bool
  | 0, _, _ => false
  | fuel + 1, a, b =>
    match a.numView?, b.numView? with
    | some x, some y => x.same y
    | some _, none | none, some _ => false
    | none, none =>
      match a, b with
      | .none, .none => true
      | .str x, .str y => x == y
      | .bytes x, .bytes y => x == y
      | .datetime x, .datetime y => x.same y
      | .date x, .date y => x == y
      | .time x, .time y => x.same y
      | .tuple xs, .tuple ys => Value.sameItems fuel xs ys
      | .list xs, .list ys => Value.sameItems fuel xs ys
      | .set xs, .set ys => xs.length == ys.length && Value.allWithin fuel xs ys
      | .dict xs, .dict ys => xs.length == ys.length && Value.entriesWithin fuel xs ys
      | .member c x _, .member d y _ => c == d && x == y
      | .object c xs, .object d ys => c == d && Value.sameFields fuel xs ys
      | .type s, .type t => s == t
      | .fragment f, .fragment g => Fragment.sameUpTo fuel f g
      | .database, .database => true
      | _, _ => false

/-- Item-by-item equality of two sequences. -/
def Value.sameItems : Nat → List Value → List Value → Bool
  | _, [], [] => true
  | fuel, x :: xs, y :: ys => Value.sameUpTo fuel x y && Value.sameItems fuel xs ys
  | _, _, _ => false

/-- Whether a value equals an item of a list. -/
def Value.within : Nat → Value → List Value → Bool
  | _, _, [] => false
  | fuel, x, y :: ys => Value.sameUpTo fuel x y || Value.within fuel x ys

/-- Whether every item of the first list equals an item of the second. -/
def Value.allWithin : Nat → List Value → List Value → Bool
  | _, [], _ => true
  | fuel, x :: xs, ys => Value.within fuel x ys && Value.allWithin fuel xs ys

/-- The value under a key equal to `k` in dictionary entries. -/
def Value.lookupUpTo : Nat → Value → List (Value × Value) → Option Value
  | _, _, [] => none
  | fuel, k, (k', v) :: rest => if Value.sameUpTo fuel k k' then some v else Value.lookupUpTo fuel k rest

/-- Whether every entry of the first dictionary is in the second with an equal value. -/
def Value.entriesWithin : Nat → List (Value × Value) → List (Value × Value) → Bool
  | _, [], _ => true
  | fuel, (k, v) :: rest, ys =>
    (match Value.lookupUpTo fuel k ys with
      | some w => Value.sameUpTo fuel v w
      | none => false) && Value.entriesWithin fuel rest ys

/-- Equality of model fields, set and unset alike. -/
def Value.sameFields : Nat → List (String × Option Value) → List (String × Option Value) → Bool
  | _, [], [] => true
  | fuel, (n, x) :: xs, (m, y) :: ys =>
    n == m &&
      (match x, y with
        | some v, some w => Value.sameUpTo fuel v w
        | none, none => true
        | _, _ => false) && Value.sameFields fuel xs ys
  | _, _, _ => false

/-- Equality of fragments, looking `fuel` levels deep. -/
def Fragment.sameUpTo : Nat → Fragment → Fragment → Bool
  | 0, _, _ => false
  | fuel + 1, f, g =>
    match f, g with
    | .ident a, .ident b => a == b
    | .safe a, .safe b => a == b
    | .column a x, .column b y => a == b && x == y
    | .within xs, .within ys => Value.sameItems fuel xs ys
    | .template s xs p, .template t ys q => s == t && p == q && Value.sameItems fuel xs ys
    | .group xs p, .group ys q => p == q && Fragment.sameList fuel xs ys
    | .base, .base => true
    | _, _ => false

/-- Equality of fragment lists. -/
def Fragment.sameList : Nat → List Fragment → List Fragment → Bool
  | _, [], [] => true
  | fuel, f :: fs, g :: gs => Fragment.sameUpTo fuel f g && Fragment.sameList fuel fs gs
  | _, _, _ => false

end

/-- Equality of values. -/
def Value.same (a b : Value) : Bool := Value.sameUpTo (max a.depth b.depth + 1) a b

/-- The first of each group of equal items, in order. -/
def Value.distinct (xs : List Value) : List Value :=
  xs.foldl (fun acc x => if acc.any (Value.same x) then acc else acc ++ [x]) []

/-- Dictionary entries with one entry per key: a later value replaces an earlier
one under the first key that equals it. -/
def Value.mergeEntries (xs : List (Value × Value)) : List (Value × Value) :=
  xs.foldl (fun acc (k, v) =>
    if acc.any (fun (k', _) => Value.same k k') then
      acc.map fun (k', v') => if Value.same k k' then (k', v) else (k', v')
    else acc ++ [(k, v)]) []

end SqlMapper
