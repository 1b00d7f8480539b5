import SqlMapper.Database.Json
import SqlMapper.Database.Operators

/-!
# Aggregate functions

An aggregate folds the values of the rows of a group into one value. Its
running state is a tally; each row steps it, and the group's value is the
tally finished.

`count(*)` counts rows and `count(X)` the rows where X is not `NULL`. `sum`
adds integers exactly until a real (or text that is not an integer) comes,
and fails if the exact sum leaves the 64-bit range; beside it a real sum is
kept, in the order the rows come, which `total` and `avg` give. `min` and
`max` keep the least or greatest value under their collation, ties keeping
the first. `group_concat` joins the text of its values, each after the
separator of its own row (a comma by default). `NULL` values are left out
everywhere; a group with no other value gives `NULL`, except that `count`
and `total` give zero and the JSON aggregates an empty array or object.
-/

namespace SqlMapper.Database

/-- The running state of an aggregate. -/
structure Tally where
  /-- The values counted. -/
  count : Nat := 0
  intSum : Int := 0
  realSum : Float := 0.0
  approximate : Bool := false
  overflow : Bool := false
  /-- The extreme value so far, of `min` and `max`. -/
  best : Option Datum := none
  /-- The text so far, of `group_concat` and the JSON aggregates. -/
  text : Option (List UInt8) := none
  deriving Inhabited

/-- The number an argument stands for in a sum: text that is wholly a number
reads as it, other values are taken as they are. -/
def sumOperand (d : Datum) : Datum :=
  match d with
  | .text bs => Datum.numericText false bs
  | _ => d

/-- Adds a value to a sum. -/
def Tally.addToSum (t : Tally) (d : Datum) : Tally :=
  match sumOperand d with
  | .null => t
  | .integer n =>
    let t := { t with count := t.count + 1, realSum := t.realSum + integerFloat n }
    if t.approximate || t.overflow then t
    else match inRange? (t.intSum + n) with
      | some s => { t with intSum := s }
      | none => { t with approximate := true, overflow := true }
  | v => { t with count := t.count + 1, realSum := t.realSum + v.toReal, approximate := true }

/-- The element a row adds to a JSON aggregate: its value as JSON, or for
an object its key (text, or nothing for `NULL`), a colon and its value. -/
def jsonElement (name : String) (args : List (Datum × Bool)) : Except Fault (List UInt8) := do
  let a := (args[0]?.map (·.1)).getD .null
  if name == "json_group_object" then
    let key := match a.textBytes? with
      | some bs => 34 :: escapeJsonBytes bs ++ [34]
      | none => []
    let v ← jsonOfValue ((args[1]?.map (·.1)).getD .null) ((args[1]?.map (·.2)).getD false)
    pure (key ++ [58] ++ v)
  else jsonOfValue a ((args[0]?.map (·.2)).getD false)

/-- Steps a tally by one row's arguments, each with whether it is JSON text.
Also says whether the row set a new extreme (or, for other aggregates,
whether it was counted). -/
def Tally.step (name : String) (c : Collation) (t : Tally) (args : List (Datum × Bool)) :
    Except Fault (Tally × Bool) := do
  let a := (args[0]?.map (·.1)).getD .null
  match name with
  | "count" =>
    if args.isEmpty || !a.isNull then pure ({ t with count := t.count + 1 }, true) else pure (t, false)
  | "sum" | "total" | "avg" => pure (t.addToSum a, true)
  | "min" | "max" =>
    if a.isNull then pure (t, t.best.isNone)
    else match t.best with
      | none => pure ({ t with best := some a }, true)
      | some b =>
        let o := b.compareWith c a
        if (name == "max" && o == .lt) || (name == "min" && o == .gt) then pure ({ t with best := some a }, true)
        else pure (t, false)
  | "group_concat" =>
    if a.isNull then pure (t, false)
    else
      let sep : List UInt8 := match t.text with
        | none => []
        | some _ => if args.length < 2 then [44] else match args[1]? with
          | some (s, _) => s.bytes
          | none => []
      pure ({ t with text := some ((t.text.getD []) ++ sep ++ a.bytes) }, true)
  | "json_group_array" | "json_group_object" =>
    let v ← jsonElement name args
    let sep : List UInt8 := if t.text.isSome then [44] else []
    pure ({ t with text := some ((t.text.getD []) ++ sep ++ v) }, true)
  | _ => pure (t, true)

/-- The value of a finished tally. -/
def Tally.finish (name : String) (t : Tally) : Except Fault Datum :=
  match name with
  | "count" => pure (.integer t.count)
  | "sum" =>
    if t.count == 0 then pure .null
    else if t.overflow then throw (operational "integer overflow")
    else if t.approximate then pure (.ofReal t.realSum)
    else pure (.integer t.intSum)
  | "total" => pure (.ofReal t.realSum)
  | "avg" => pure (if t.count == 0 then .null else .ofReal (t.realSum / integerFloat t.count))
  | "min" | "max" => pure (t.best.getD .null)
  | "group_concat" => pure (match t.text with
    | some bs => .text bs
    | none => .null)
  | "json_group_array" => pure (.text (91 :: (t.text.getD []) ++ [93]))
  | "json_group_object" => pure (.text (123 :: (t.text.getD []) ++ [125]))
  | _ => pure .null

/-- Whether an aggregate keeps an extreme value, so that the bare columns of
its query come from the row that set it. -/
def keepsExtreme (name : String) : Bool := name == "min" || name == "max"

end SqlMapper.Database
