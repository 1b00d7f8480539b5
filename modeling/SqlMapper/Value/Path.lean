import SqlMapper.Value.Equal

/-!
# Paths into values

A path names a part of a value by the steps down to it: an item of a list or
a tuple by its place, the value of a dictionary entry by its key, a field of
an instance by its name. Lists, dictionaries and instances are the objects
that can change in place, so a path to one of them names an object that
other values may hold too.

`Value.setAt` puts a new part at a path and leaves the rest of the value as
it was.
-/

namespace SqlMapper

/-- One step down into a value. -/
inductive PathStep where
  | item (place : Nat)
  | key (k : Value)
  | field (name : String)
  deriving Inhabited

/-- Whether two steps go to the same part: dictionary keys compare as values. -/
def PathStep.same : PathStep → PathStep → Bool
  | .item i, .item j => i == j
  | .key a, .key b => Value.same a b
  | .field a, .field b => a == b
  | _, _ => false

/-- Whether two paths go to the same part. -/
def samePath : List PathStep → List PathStep → Bool
  | [], [] => true
  | a :: p, b :: q => a.same b && samePath p q
  | _, _ => false

/-- The rest of a path after a prefix, if the prefix starts it. -/
def pathAfter? : List PathStep → List PathStep → Option (List PathStep)
  | [], p => some p
  | a :: pre, b :: p => if a.same b then pathAfter? pre p else none
  | _ :: _, [] => none

/-- The part of a value at a path. -/
def Value.at? : Value → List PathStep → Option Value
  | v, [] => some v
  | .list xs, .item i :: rest | .tuple xs, .item i :: rest => xs[i]?.bind (·.at? rest)
  | .dict es, .key k :: rest => (es.find? (fun e => Value.same k e.1)).bind (·.2.at? rest)
  | .object _ fs, .field n :: rest => ((fs.lookup n).bind id).bind (·.at? rest)
  | _, _ => Option.none

/-- A value with a new part at a path; a path that goes nowhere changes nothing. -/
def Value.setAt : Value → List PathStep → Value → Value
  | _, [], x => x
  | .list xs, .item i :: rest, x => .list (xs.zipIdx.map fun (y, j) => if j == i then y.setAt rest x else y)
  | .tuple xs, .item i :: rest, x => .tuple (xs.zipIdx.map fun (y, j) => if j == i then y.setAt rest x else y)
  | .dict es, .key k :: rest, x => .dict (es.map fun (k', y) => if Value.same k k' then (k', y.setAt rest x) else (k', y))
  | .object c fs, .field n :: rest, x =>
    .object c (fs.map fun (n', y) => if n' == n then (n', y.map (·.setAt rest x)) else (n', y))
  | v, _, _ => v

mutual

/-- The paths to the objects inside a value that can change in place, the
value itself first when it is one. -/
def Value.objectPaths : Value → List (List PathStep)
  | .list xs => [] :: Value.itemObjectPaths 0 xs
  | .tuple xs => Value.itemObjectPaths 0 xs
  | .dict es => [] :: Value.entryObjectPaths es
  | .object _ fs => [] :: Value.fieldObjectPaths fs
  | _ => []

/-- The paths to the objects inside items, from the place of the first. -/
def Value.itemObjectPaths : Nat → List Value → List (List PathStep)
  | _, [] => []
  | i, x :: rest => (x.objectPaths.map (.item i :: ·)) ++ Value.itemObjectPaths (i + 1) rest

/-- The paths to the objects inside the values of dictionary entries. -/
def Value.entryObjectPaths : List (Value × Value) → List (List PathStep)
  | [] => []
  | (k, x) :: rest => (x.objectPaths.map (.key k :: ·)) ++ Value.entryObjectPaths rest

/-- The paths to the objects inside the fields of an instance. -/
def Value.fieldObjectPaths : List (String × Option Value) → List (List PathStep)
  | [] => []
  | (_, Option.none) :: rest => Value.fieldObjectPaths rest
  | (n, some x) :: rest => (x.objectPaths.map (.field n :: ·)) ++ Value.fieldObjectPaths rest

end

end SqlMapper
