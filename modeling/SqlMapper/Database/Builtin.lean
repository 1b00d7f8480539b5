import SqlMapper.Database.Plan

/-!
# The built-in functions

Every function the database knows, with the numbers of arguments it takes and
what it is: a scalar function, computed from one row; an aggregate, computed
from the rows of a group and usable over a window; or a window function, which
only a window gives meaning. A name may have several entries: `max` with one
argument is an aggregate and with more a scalar function, `round` takes one or
two arguments. A call matches an entry with exactly its number of arguments,
or one that takes any number; a name with no such entry is called with the
wrong number of arguments, and a name with no entry at all is no function.

A few functions compare their arguments, and so use the collation of the
first argument that has one; a few are not the same from call to call, and so
may not stand where a value must not change, as in an index.
-/

namespace SqlMapper.Database

/-- What a function computes from. -/
inductive FunctionKind where
  | scalar | aggregate | window
  deriving DecidableEq, Inhabited

/-- An entry of the catalog: a name, what it is, and how many arguments it
takes (none for any number). -/
structure Builtin where
  name : String
  kind : FunctionKind
  arity : Option Nat
  /-- Whether it compares its arguments under a collation. -/
  collates : Bool := false
  /-- Whether a call gives the same value for the same arguments. -/
  constant : Bool := true
  /-- The fewest arguments an entry of any number takes. -/
  least : Nat := 0
  deriving Inhabited

/-- Scalar entries of the given arities. -/
def scalars (name : String) (arities : List (Option Nat)) : List Builtin :=
  arities.map fun a => { name, kind := .scalar, arity := a }

/-- Entries whose calls may give different values for the same arguments. -/
def varying (bs : List Builtin) : List Builtin := bs.map fun b => { b with constant := false }

/-- Entries that compare their arguments under a collation. -/
def collating (bs : List Builtin) : List Builtin := bs.map fun b => { b with collates := true }

/-- Entries of any number of arguments that take at least `n`. -/
def atLeast (n : Nat) (bs : List Builtin) : List Builtin := bs.map fun b => { b with least := n }

/-- The catalog. -/
def builtins : List Builtin :=
  let one := [some 1]
  let anyCount : List (Option Nat) := [none]
  scalars "abs" one ++ varying (scalars "changes" [some 0]) ++ scalars "char" anyCount ++
  atLeast 2 (scalars "coalesce" anyCount) ++ scalars "format" anyCount ++ scalars "printf" anyCount ++
  scalars "glob" [some 2] ++ scalars "hex" one ++ scalars "ifnull" [some 2] ++ scalars "iif" [some 3] ++
  scalars "instr" [some 2] ++ varying (scalars "last_insert_rowid" [some 0]) ++
  scalars "length" one ++ scalars "like" [some 2, some 3] ++ scalars "likelihood" [some 2] ++
  scalars "likely" one ++ scalars "unlikely" one ++ scalars "lower" one ++ scalars "upper" one ++
  scalars "ltrim" [some 1, some 2] ++ scalars "rtrim" [some 1, some 2] ++ scalars "trim" [some 1, some 2] ++
  collating (atLeast 2 (scalars "max" anyCount)) ++
  collating (atLeast 2 (scalars "min" anyCount)) ++
  collating (scalars "nullif" [some 2]) ++ scalars "quote" one ++
  varying (scalars "random" [some 0]) ++ varying (scalars "randomblob" one) ++
  scalars "replace" [some 3] ++ scalars "round" [some 1, some 2] ++ scalars "sign" one ++
  scalars "sqlite_version" [some 0] ++ scalars "sqlite_source_id" [some 0] ++
  scalars "sqlite_compileoption_used" one ++ scalars "sqlite_compileoption_get" one ++
  scalars "substr" [some 2, some 3] ++ scalars "substring" [some 2, some 3] ++
  varying (scalars "total_changes" [some 0]) ++ scalars "typeof" one ++ scalars "unicode" one ++
  scalars "zeroblob" one ++ scalars "match" [some 2] ++
  -- arithmetic
  scalars "ceil" one ++ scalars "ceiling" one ++ scalars "floor" one ++ scalars "trunc" one ++
  scalars "ln" one ++ scalars "log" [some 1, some 2] ++ scalars "log10" one ++ scalars "log2" one ++
  scalars "exp" one ++ scalars "pow" [some 2] ++ scalars "power" [some 2] ++ scalars "mod" [some 2] ++
  scalars "acos" one ++ scalars "asin" one ++ scalars "atan" one ++ scalars "atan2" [some 2] ++
  scalars "cos" one ++ scalars "sin" one ++ scalars "tan" one ++ scalars "cosh" one ++ scalars "sinh" one ++
  scalars "tanh" one ++ scalars "acosh" one ++ scalars "asinh" one ++ scalars "atanh" one ++
  scalars "sqrt" one ++ scalars "radians" one ++ scalars "degrees" one ++ scalars "pi" [some 0] ++
  -- dates and times
  varying (scalars "julianday" anyCount) ++ varying (scalars "unixepoch" anyCount) ++
  varying (scalars "date" anyCount) ++ varying (scalars "time" anyCount) ++
  varying (scalars "datetime" anyCount) ++ varying (scalars "strftime" anyCount) ++
  varying (scalars "current_date" [some 0]) ++ varying (scalars "current_time" [some 0]) ++
  varying (scalars "current_timestamp" [some 0]) ++
  -- JSON
  scalars "json" one ++ scalars "json_array" anyCount ++ scalars "json_array_length" [some 1, some 2] ++
  scalars "json_extract" anyCount ++ scalars "->" [some 2] ++ scalars "->>" [some 2] ++
  scalars "json_insert" anyCount ++ scalars "json_object" anyCount ++ scalars "json_patch" [some 2] ++
  scalars "json_quote" one ++ scalars "json_remove" anyCount ++ scalars "json_replace" anyCount ++
  scalars "json_set" anyCount ++ scalars "json_type" [some 1, some 2] ++ scalars "json_valid" one ++
  -- aggregates
  [{ name := "avg", kind := .aggregate, arity := some 1 },
   { name := "count", kind := .aggregate, arity := some 0 },
   { name := "count", kind := .aggregate, arity := some 1 },
   { name := "group_concat", kind := .aggregate, arity := some 1 },
   { name := "group_concat", kind := .aggregate, arity := some 2 },
   { name := "max", kind := .aggregate, arity := some 1, collates := true },
   { name := "min", kind := .aggregate, arity := some 1, collates := true },
   { name := "sum", kind := .aggregate, arity := some 1 },
   { name := "total", kind := .aggregate, arity := some 1 },
   { name := "json_group_array", kind := .aggregate, arity := some 1 },
   { name := "json_group_object", kind := .aggregate, arity := some 2 }] ++
  -- window functions
  [("row_number", 0), ("rank", 0), ("dense_rank", 0), ("percent_rank", 0), ("cume_dist", 0),
   ("ntile", 1), ("first_value", 1), ("last_value", 1), ("nth_value", 2),
   ("lead", 1), ("lead", 2), ("lead", 3), ("lag", 1), ("lag", 2), ("lag", 3)].map
    fun (name, n) => { name, kind := .window, arity := some n }

/-- The entry a call of a name with `n` arguments uses: one of exactly that
many arguments first, else one of any number. -/
def findBuiltin? (name : String) (n : Nat) : Option Builtin :=
  let named := builtins.filter fun b => sameName b.name name
  match named.find? (·.arity == some n) with
  | some b => some b
  | none => named.find? fun b => b.arity.isNone && b.least ≤ n

/-- Whether a name has an entry at all. -/
def isBuiltin (name : String) : Bool := builtins.any fun b => sameName b.name name

end SqlMapper.Database
