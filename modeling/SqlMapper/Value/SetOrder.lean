import SqlMapper.Value.Equal

/-!
# The order of a set's items

A set keeps its items in an open-addressed table and goes through them in
the order of the table's slots. Where an item lands depends on its hash, on
the size of the table, and on the items that came before it, so the order is
fixed once the hashes are.

The hash of a number is the number modulo the prime `2^61 - 1`, with the
sign kept and `-1` read as `-2`: a quotient `m / 2^k` or `m · 10^e` takes the
inverse of its denominator modulo the prime, so that equal numbers of any
kind hash alike. A tuple mixes the hashes of its items. The hash of a text,
of bytes, of `None` and of the other values changes from run to run, so a set
that holds one keeps the order its items came in.

An item goes to the slot its hash picks within the table, or to the first
free one of the nine slots after it when they fit, or else to the slot that
the probe sequence `i ↦ 5i + 1 + perturb` picks next, `perturb` the hash
shifted right by five more bits at each step. A table of eight slots grows
when three fifths of it is filled, to the least power of two above four
times the items, and the items move over in the order of the old slots.
-/

namespace SqlMapper

/-- The prime modulo which numbers hash. -/
def hashModulus : Nat := Nat.pow 2 61 - 1

/-- The inverse of ten modulo the hash prime. -/
def tenInverse : Nat := 2075258708292324556

example : 10 * tenInverse % hashModulus = 1 := by decide

/-- `b ^ e` modulo `m`, by squaring. -/
def powMod (b e m : Nat) : Nat :=
  if h : e = 0 then 1 % m
  else
    let r := powMod (b * b % m) (e / 2) m
    if e % 2 = 1 then r * b % m else r
termination_by e
decreasing_by exact Nat.div_lt_self (Nat.pos_of_ne_zero h) (by decide)

/-- A power of a base modulo the hash prime, a negative one through the
inverse of the base. -/
def powHash (base inverse : Nat) (e : Int) : Nat :=
  if e ≥ 0 then powMod base e.toNat hashModulus else powMod inverse (-e).toNat hashModulus

/-- A signed hash as the word that holds it. -/
def hashWord (h : Int) : UInt64 := ((h % Int.pow 2 64).toNat).toUInt64

/-- The hash of an exact number `num · 2^twos · 10^tens`. -/
def Exact.hash (x : Exact) : Int :=
  let magnitude := x.num.natAbs % hashModulus * powHash 2 (Nat.pow 2 60) x.twos % hashModulus *
    powHash 10 tenInverse x.tens % hashModulus
  let signed : Int := if x.num < 0 then -(magnitude : Int) else magnitude
  if signed = -1 then -2 else signed

/-- The constants that mix the hashes of a tuple's items. -/
def tuplePrime1 : UInt64 := 11400714785074694791
def tuplePrime2 : UInt64 := 14029467366897019727
def tuplePrime5 : UInt64 := 2870177450012600261

/-- The hash of a tuple from the hashes of its items. -/
def tupleHash (lanes : List UInt64) : UInt64 :=
  let acc := lanes.foldl (fun acc lane =>
    let acc := acc + lane * tuplePrime2
    let acc := (acc <<< 31) ||| (acc >>> 33)
    acc * tuplePrime1) tuplePrime5
  let acc := acc + (lanes.length.toUInt64 ^^^ (tuplePrime5 ^^^ 3527539))
  if acc == 0xFFFFFFFFFFFFFFFF then 1546275796 else acc

/-- The hash of a number, when it is the same in every run: not for a NaN. -/
def Value.numberHash? (v : Value) : Option UInt64 :=
  match v.numView? with
  | some (.exact x) => some (hashWord x.hash)
  | some (.infinite negative) => some (hashWord (if negative then -314159 else 314159))
  | _ => Option.none

mutual

/-- The hash of a value, when it is the same in every run. -/
def Value.stableHash? : Value → Option UInt64
  | .tuple items => (Value.stableHashes? items).map tupleHash
  | v@(.bool _) | v@(.int _) | v@(.float _) | v@(.decimal _) => v.numberHash?
  | _ => Option.none

/-- The hashes of values, when each is the same in every run. -/
def Value.stableHashes? : List Value → Option (List UInt64)
  | [] => some []
  | x :: rest => do pure ((← x.stableHash?) :: (← Value.stableHashes? rest))

end

/-- The slots a probe looks at from a slot: the slot itself, and the nine
after it when they are in the table. -/
def probeSlots (mask i : Nat) : List Nat :=
  if i + 9 ≤ mask then List.range' i 10 else [i]

/-- The slot an item of a hash lands in: the first free slot of the probes. -/
def landingSlot (table : Array (Option Nat)) (hash : UInt64) : Nat :=
  let mask := table.size - 1
  go (table.size + 64) mask (hash.toNat &&& mask) hash
where
  go : Nat → Nat → Nat → UInt64 → Nat
    | 0, _, i, _ => i
    | fuel + 1, mask, i, perturb =>
      match (probeSlots mask i).find? fun j => (table[j]?.getD none).isNone with
      | some j => j
      | none =>
        let perturb := perturb >>> 5
        go fuel mask ((i * 5 + 1 + perturb.toNat) &&& mask) perturb

/-- The table with an item, by its place among the items, put where its hash lands. -/
def placeItem (hashes : List UInt64) (table : Array (Option Nat)) (k : Nat) : Array (Option Nat) :=
  table.set! (landingSlot table (hashes.getD k 0)) (some k)

/-- The items of a table in the order of its slots. -/
def tableItems (table : Array (Option Nat)) : List Nat := table.toList.filterMap id

/-- A table of a size with the items of an old one moved over in the order of its slots. -/
def grownTable (hashes : List UInt64) (old : Array (Option Nat)) (size : Nat) : Array (Option Nat) :=
  (tableItems old).foldl (placeItem hashes) (Array.replicate size none)

/-- The least power of two, at least eight, above a count. -/
def tableSizeAbove (n : Nat) : Nat := go n 8
where
  go : Nat → Nat → Nat
    | 0, size => size
    | fuel + 1, size => if size ≤ n then go fuel (2 * size) else size

/-- Adds the item at a place to a table of `filled` items, growing it when it
is three fifths full. -/
def addItem (hashes : List UInt64) (state : Array (Option Nat) × Nat) (k : Nat) : Array (Option Nat) × Nat :=
  let (table, filled) := state
  let table := placeItem hashes table k
  let filled := filled + 1
  if filled * 5 < (table.size - 1) * 3 then (table, filled)
  else
    let wanted := if filled > 50000 then filled * 2 else filled * 4
    (grownTable hashes table (tableSizeAbove wanted), filled)

/-- The places of items of the given hashes in the order a set goes through
them, added in order to an empty table. -/
def setOrder (hashes : List UInt64) : List Nat :=
  tableItems (List.range hashes.length |>.foldl (addItem hashes) (Array.replicate 8 none, 0)).1

/-- Distinct items in the order a set holding them goes through them: by
their hashes, or as they came when one of them has no fixed hash. -/
def Value.inSetOrder (items : List Value) : List Value :=
  match Value.stableHashes? items with
  | some hashes => (setOrder hashes).filterMap fun k => items[k]?
  | Option.none => items

/-- The items of a set built from values: the first of equal values kept,
in the order the set goes through them. -/
def Value.setItems (xs : List Value) : List Value := Value.inSetOrder (Value.distinct xs)

end SqlMapper
