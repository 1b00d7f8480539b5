import SqlMapper.Model.Catalog

/-!
# Zero values and bare instances

The zero value of a class is what a missing value becomes where `None` cannot
stand: `0`, `0.0`, `False`, the empty string, bytes and containers, the
decimal zero, and for a model class its bare instance. Other classes,
subclasses of builtin classes among them, have none and give `None`.

A bare instance holds the defaults of the fields that have one and leaves the
other fields unset, without validating anything.
-/

namespace SqlMapper

open SqlMapper.Number

namespace Catalog

/-- The instance of a model class that holds its defaults and nothing else. -/
def construct (cat : Catalog) (c : ClassRef) : Value :=
  .object c ((cat.fields c.id).map fun f => (f.name, f.default))

/-- The zero value of a base class. -/
def zeroOf (cat : Catalog) : Ty → Value
  | .builtin .int => .int 0
  | .builtin .float => .float 0.0
  | .builtin .bool => .bool false
  | .builtin .str => .str ""
  | .builtin .bytes => .bytes []
  | .builtin .decimal => .decimal (.finite false 0 0)
  | .builtin .dict => .dict []
  | .builtin .list => .list []
  | .builtin .set => .set []
  | .builtin .tuple => .tuple []
  | .cls c => if c.sort == .table || c.sort == .struct then cat.construct c else .none
  | _ => .none

end Catalog

end SqlMapper
