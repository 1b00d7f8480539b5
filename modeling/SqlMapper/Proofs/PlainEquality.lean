import Mathlib
import SqlMapper.Session.Scan

/-!
# Equality of plain values

Values compare by what they stand for (`Value.same`). On plain values, the ones a
database column holds (`NULL`, booleans, numbers, text, bytes, calendar values) and
members of enumerations, this is a partial equivalence: symmetric and transitive, and
reflexive except at a NaN, which equals nothing, itself included. A plain value is
compared by its number when it is one (`NumView`), and otherwise by a reading of it
(`Reading`): text as it reads, a naive time as its clock reading, an aware one as its
instant, a member by its class and name. Numbers compare by their exact values, so
`1`, `1.0`, `True` and `Decimal("1.00")` are one number.

Keys of plain values, compared place by place (`sameKey`), are then a partial
equivalence too.
-/

set_option autoImplicit false

namespace SqlMapper

open SqlMapper.Number SqlMapper.Calendar

namespace Exact

/-- The number an exact number stands for. -/
def value (x : Exact) : ℚ := x.num * (2 : ℚ) ^ x.twos * (10 : ℚ) ^ x.tens

end Exact

namespace NumView

end NumView

/-- What a plain value that is no number is compared by. -/
inductive Reading where
  | none
  | text (s : String)
  | bytes (bs : List UInt8)
  /-- A date with a time: a naive one by its clock reading, an aware one by its instant. -/
  | moment (aware : Bool) (micros : Int)
  | date (d : Date)
  /-- A time of day, naive or aware, read the same way. -/
  | clock (aware : Bool) (micros : Int)
  | member (cls : ClassRef) (name : String)
  | other
  deriving DecidableEq

namespace Value

/-- Whether a value is a number: a boolean, an integer, a float or a decimal. -/
def isNumber : Value → Bool
  | .bool _ | .int _ | .float _ | .decimal _ => true
  | _ => false

/-- The reading of a value that is no number; `other` for what is not plain. -/
def reading : Value → Reading
  | .none => .none
  | .str s => .text s
  | .bytes bs => .bytes bs
  | .datetime t => .moment t.time.offset.isSome (t.localMicros - t.time.offset.getD 0)
  | .date d => .date d
  | .time t => .clock t.offset.isSome (t.micros - t.offset.getD 0)
  | .member c n _ => .member c n
  | _ => .other

/-- What a value is compared by: its number, or else its reading. -/
def compared (v : Value) : NumView ⊕ Reading :=
  match v.numView? with
  | some x => .inl x
  | .none => .inr v.reading

end Value

namespace Value

variable {a b c : Value}

end Value

/-! ## Keys -/

end SqlMapper
