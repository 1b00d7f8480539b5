import SqlMapper.Value.Annotation

/-!
# Display and text forms of values

Every value has a *display form*, the text that reads back as the value and
that messages quote (`'x'`, `[1, 2]`, `Decimal('1.50')`,
`datetime.date(2024, 1, 2)`, `Point(x=1, y=2)`), and a *text form*, what the
value turns into as plain text: a string is itself, a date is its ISO text, a
decimal its scientific string, an enumeration member `Color.RED`, a model its
fields as `name=value` separated by blanks. Values without a text form of
their own use the display form.
-/

namespace SqlMapper

open SqlMapper.Text SqlMapper.Number SqlMapper.Calendar

/-- Display form of a signed length of time in microseconds, by days, seconds and microseconds. -/
def durationDisplay (micros : Int) : String :=
  let dayLength : Int := 86400000000
  let days := micros / dayLength
  let rest := (micros % dayLength).toNat
  let parts :=
    (if days ≠ 0 then ["days=" ++ toString days] else []) ++
    (if rest / 1000000 ≠ 0 then ["seconds=" ++ toString (rest / 1000000)] else []) ++
    (if rest % 1000000 ≠ 0 then ["microseconds=" ++ toString (rest % 1000000)] else [])
  "datetime.timedelta(" ++ (if parts.isEmpty then "0" else ", ".intercalate parts) ++ ")"

/-- Display form of a fixed offset from UTC as a time zone. -/
def zoneDisplay (offset : Int) : String :=
  if offset = 0 then "datetime.timezone.utc"
  else "datetime.timezone(" ++ durationDisplay offset ++ ")"

/-- Clock fields shown in a display form: a zero microsecond is left out, and
then a zero second. -/
def clockFields (t : TimeOfDay) : List Nat :=
  if t.micro ≠ 0 then [t.hour, t.minute, t.second, t.micro]
  else if t.second ≠ 0 then [t.hour, t.minute, t.second]
  else [t.hour, t.minute]

/-- Display form of a constructor call of a calendar class, with the time zone last. -/
def calendarCall (cls : String) (fields : List Nat) (offset : Option Int) : String :=
  "datetime." ++ cls ++ "(" ++ ", ".intercalate (fields.map toString) ++
    (offset.map fun o => ", tzinfo=" ++ zoneDisplay o).getD "" ++ ")"

/-- The name of a query builder of a kind. -/
def QueryKind.builderName : QueryKind → String
  | .select => "SelectQuery"
  | .insert => "InsertQuery"
  | .update => "UpdateQuery"
  | .delete => "DeleteQuery"
  | .createTable => "CreateTableQuery"
  | .dropTable => "DropTableQuery"

/-- The class name of a fragment. -/
def Fragment.className : Fragment → String
  | .ident _ => "Ident"
  | .safe _ => "Safe"
  | .column .. => "ColumnRef"
  | .within _ => "In"
  | .template .. => "SafeQuery"
  | .group .. => "WhereGroup"
  | .base => "Fragment"

mutual

/-- The display form of a value. -/
def Value.display : Value → String
  | .none => "None"
  | .bool b => if b then "True" else "False"
  | .int n => toString n
  | .float x => displayFloat x
  | .str s => displayString s
  | .bytes bs => displayBytes bs
  | .decimal d => "Decimal(" ++ displayString d.toText ++ ")"
  | .datetime dt =>
    calendarCall "datetime" ([dt.date.year, dt.date.month, dt.date.day] ++ clockFields dt.time) dt.time.offset
  | .date d => calendarCall "date" [d.year, d.month, d.day] Option.none
  | .time t => calendarCall "time" (clockFields t) t.offset
  | .tuple items => "(" ++ Value.displayList items ++ (if items.length = 1 then ",)" else ")")
  | .list items => "[" ++ Value.displayList items ++ "]"
  | .set items => if items.isEmpty then "set()" else "\x7b" ++ Value.displayList items ++ "\x7d"
  | .dict entries => "\x7b" ++ Value.displayEntries entries ++ "\x7d"
  | .member cls name v => "<" ++ cls.name ++ "." ++ name ++ ": " ++ v.display ++ ">"
  | .object cls fields => cls.name ++ "(" ++ Value.displayFields ", " fields ++ ")"
  | .type t => t.display
  | .fragment f => f.className ++ "(" ++ Fragment.displayFields ", " f ++ ")"
  | .query (.mk kind _) => "<" ++ kind.builderName ++ " object>"
  | .database => "<DB object>"

/-- Display forms of values separated by commas. -/
def Value.displayList : List Value → String
  | [] => ""
  | [v] => v.display
  | v :: rest => v.display ++ ", " ++ Value.displayList rest

/-- Display forms of dictionary entries separated by commas. -/
def Value.displayEntries : List (Value × Value) → String
  | [] => ""
  | [(k, v)] => k.display ++ ": " ++ v.display
  | (k, v) :: rest => k.display ++ ": " ++ v.display ++ ", " ++ Value.displayEntries rest

/-- Set fields of a model as `name=value`, separated by `sep`; unset fields are left out. -/
def Value.displayFields (sep : String) : List (String × Option Value) → String
  | [] => ""
  | (_, .none) :: rest => Value.displayFields sep rest
  | (n, some v) :: rest =>
    let tail := Value.displayFields sep rest
    n ++ "=" ++ v.display ++ (if tail.isEmpty then "" else sep ++ tail)

/-- Fields of a fragment as `name=value`, separated by `sep`. -/
def Fragment.displayFields (sep : String) : Fragment → String
  | .ident name => "name=" ++ displayString name
  | .safe sql => "sql=" ++ displayString sql
  | .column name aliasName =>
    "name=" ++ displayString name ++ sep ++ "alias=" ++ (aliasName.map displayString).getD "None"
  | .within items => "values=" ++ "(" ++ Value.displayList items ++ (if items.length = 1 then ",)" else ")")
  | .template text args s =>
    "template=" ++ displayString text ++ sep ++ "args=" ++ "(" ++ Value.displayList args ++
      (if args.length = 1 then ",)" else ")") ++ sep ++ "sep=" ++ displayString s
  | .group conds s =>
    "conditions=" ++ "(" ++ Fragment.displayGroup conds ++ (if conds.length = 1 then ",)" else ")") ++
      sep ++ "sep=" ++ displayString s
  | .base => ""

/-- Display forms of fragments separated by commas. -/
def Fragment.displayGroup : List Fragment → String
  | [] => ""
  | [f] => f.className ++ "(" ++ Fragment.displayFields ", " f ++ ")"
  | f :: rest => f.className ++ "(" ++ Fragment.displayFields ", " f ++ "), " ++ Fragment.displayGroup rest

end

/-- The name of the class of a value. -/
def Value.typeName : Value → String
  | .none => "NoneType"
  | .bool _ => "bool"
  | .int _ => "int"
  | .float _ => "float"
  | .str _ => "str"
  | .bytes _ => "bytes"
  | .decimal _ => "Decimal"
  | .datetime _ => "datetime"
  | .date _ => "date"
  | .time _ => "time"
  | .tuple _ => "tuple"
  | .list _ => "list"
  | .set _ => "set"
  | .dict _ => "dict"
  | .member cls .. => cls.name
  | .object cls _ => cls.name
  | .type _ => "type"
  | .fragment f => f.className
  | .query (.mk kind _) => kind.builderName
  | .database => "DB"

/-- The text form of a value. -/
def Value.text : Value → String
  | .str s => s
  | .decimal d => d.toText
  | .datetime dt => dt.iso " "
  | .date d => d.iso
  | .time t => t.iso
  | .member cls name _ => cls.name ++ "." ++ name
  | .object _ fields => Value.displayFields " " fields
  | .fragment f => Fragment.displayFields " " f
  | v => v.display

end SqlMapper
