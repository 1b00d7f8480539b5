import SqlMapper.Database.Aggregate

/-!
# Running aggregates

An aggregate over a sliding window frame keeps one state that rows enter
and leave, rather than folding each frame afresh. What leaves is taken back
the way it came in, so the state can carry what a fresh fold would not:

* a sum of doubles subtracts what leaves, so the rounding of every step
  stays in it, and once a real or a non-integer value has entered, the sum
  stays real;
* a count goes up and down;
* joined text drops the first value and the separator after it, counted
  in bytes. When the text runs empty it starts afresh, so the next value
  comes without a separator, and a text that is empty gives `NULL`;
* a JSON array or object drops its first element, up to the first comma
  outside strings and brackets.
-/

namespace SqlMapper.Database

/-- The state of an aggregate that rows enter and leave. -/
structure Running where
  /-- The values counted, summed or averaged. -/
  count : Int := 0
  intSum : Int := 0
  realSum : Float := 0.0
  approximate : Bool := false
  overflow : Bool := false
  /-- The text joined so far, or a JSON aggregate's elements within its brackets. -/
  text : List UInt8 := []
  /-- Whether the joined text has started, so that a value entering comes after a separator. -/
  started : Bool := false
  /-- The number of values joined. -/
  joined : Int := 0
  /-- The length of the separator given with the first value. -/
  firstSeparator : Nat := 0
  /-- The lengths of the separators in the text, kept once one differs from the first. -/
  separators : Option (List Nat) := none
  deriving Inhabited

/-- The first element of a JSON aggregate's text taken away, with the comma
after it: the text up to the first comma outside strings and brackets. -/
def dropJsonElement (text : List UInt8) : List UInt8 :=
  go text.length text false 0
where
  go : Nat → List UInt8 → Bool → Int → List UInt8
    | 0, _, _, _ => []
    | _, [], _, _ => []
    | fuel + 1, c :: rest, inString, depth =>
      if c == 44 && !inString && depth == 0 then rest
      else if c == 34 then go fuel rest (!inString) depth
      else if c == 92 then go fuel (rest.drop 1) inString depth
      else if inString then go fuel rest inString depth
      else if c == 123 || c == 91 then go fuel rest inString (depth + 1)
      else if c == 125 || c == 93 then go fuel rest inString (depth - 1)
      else go fuel rest inString depth

namespace Running

/-- A value entering a sum. -/
def addToSum (s : Running) (d : Datum) : Running :=
  match sumOperand d with
  | .null => s
  | .integer n =>
    let s := { s with count := s.count + 1, realSum := s.realSum + integerFloat n }
    if s.approximate || s.overflow then s
    else match inRange? (s.intSum + n) with
      | some t => { s with intSum := t }
      | none => { s with approximate := true, overflow := true }
  | v => { s with count := s.count + 1, realSum := s.realSum + v.toReal, approximate := true }

/-- A value leaving a sum: an integer comes off both sums while the sum is
exact, anything else off the real sum. -/
def takeFromSum (s : Running) (d : Datum) : Running :=
  match sumOperand d with
  | .null => s
  | .integer n =>
    if s.approximate then { s with count := s.count - 1, realSum := s.realSum - integerFloat n }
    else { s with count := s.count - 1, realSum := s.realSum - integerFloat n, intSum := s.intSum - n }
  | v => { s with count := s.count - 1, realSum := s.realSum - v.toReal }

/-- A value entering joined text, after the separator its row gives (a
comma with one argument) unless the text has not started. -/
def join (s : Running) (value : Datum) (separator : Option Datum) : Running :=
  if value.isNull then s
  else
    let first := !s.started
    let s := { s with started := true }
    let s : Running := match separator with
      | none =>
        if first then { s with firstSeparator := 1 } else { s with text := s.text ++ [44] }
      | some sep =>
        if first then { s with firstSeparator := sep.bytes.length }
        else
          let bs := sep.bytes
          let s := { s with text := s.text ++ bs }
          if bs.length != s.firstSeparator || s.separators.isSome then
            let kept := s.separators.getD (List.replicate (s.joined - 1).toNat s.firstSeparator)
            { s with separators := some (kept.take (s.joined - 1).toNat ++ [bs.length]) }
          else s
    { s with joined := s.joined + 1, text := s.text ++ value.bytes }

/-- A value leaving joined text: its bytes and the separator after it come
off the front. -/
def unjoin (s : Running) (value : Datum) : Running :=
  if value.isNull then s
  else
    let joined := s.joined - 1
    let (cut, separators) := match s.separators with
      | some (first :: rest) => if joined > 0 then (value.bytes.length + first, some rest) else (value.bytes.length, s.separators)
      | some [] => (value.bytes.length, s.separators)
      | none => (value.bytes.length + s.firstSeparator, none)
    let text := if cut ≥ s.text.length then [] else s.text.drop cut
    if text.isEmpty then { s with joined, text, started := false, separators := none }
    else { s with joined, text, separators }

/-- A row's arguments entering the state of an aggregate. -/
def enter (name : String) (s : Running) (args : List (Datum × Bool)) : Except Fault Running := do
  let a := (args[0]?.map (·.1)).getD .null
  match name with
  | "count" => pure (if args.isEmpty || !a.isNull then { s with count := s.count + 1 } else s)
  | "sum" | "total" | "avg" => pure (s.addToSum a)
  | "group_concat" => pure (s.join a (if args.length < 2 then none else args[1]?.map (·.1)))
  | "json_group_array" | "json_group_object" =>
    let v ← jsonElement name args
    pure { s with text := s.text ++ (if s.text.isEmpty then [] else [44]) ++ v }
  | _ => pure s

/-- A row's arguments leaving the state of an aggregate. -/
def leave (name : String) (s : Running) (args : List (Datum × Bool)) : Running :=
  let a := (args[0]?.map (·.1)).getD .null
  match name with
  | "count" => if args.isEmpty || !a.isNull then { s with count := s.count - 1 } else s
  | "sum" | "total" | "avg" => s.takeFromSum a
  | "group_concat" => s.unjoin a
  | "json_group_array" | "json_group_object" => { s with text := dropJsonElement s.text }
  | _ => s

/-- The value of the state as a frame's value. -/
def value (name : String) (s : Running) : Except Fault Datum :=
  match name with
  | "count" => pure (.integer s.count)
  | "sum" =>
    if s.count ≤ 0 then pure .null
    else if s.overflow then throw (operational "integer overflow")
    else if s.approximate then pure (.ofReal s.realSum)
    else pure (.integer s.intSum)
  | "total" => pure (.ofReal s.realSum)
  | "avg" => pure (if s.count ≤ 0 then .null else .ofReal (s.realSum / integerFloat s.count))
  | "group_concat" => pure (if s.text.isEmpty then .null else .text s.text)
  | "json_group_array" => pure (.text (91 :: s.text ++ [93]))
  | "json_group_object" => pure (.text (123 :: s.text ++ [125]))
  | _ => pure .null

end Running

/-- Whether an aggregate keeps a running state that rows leave, so that its
frames slide rather than fold afresh. -/
def slides (name : String) : Bool :=
  ["count", "sum", "total", "avg", "group_concat", "json_group_array", "json_group_object"].contains name

end SqlMapper.Database
