import SqlMapper.Rows.Plan

/-!
# Mapping rows into destinations

A destination says what rows become. A list type or a list instance takes
every row, as model instances, dictionaries or scalars by its element class;
every other destination takes the first row, and there must be one: a scalar
type reads the first column, a dictionary type or instance takes every
column by name, a model class or instance takes the columns its row plan
routes.

Several destinations take one column each, all scalar types reading the
first row into a tuple, or all lists of a scalar class collecting one list
per column.

A list instance is extended in place, row after row: when a row cannot be
mapped, the elements of the rows before it stay in the list, and the failure
carries the list as it was left.
-/

namespace SqlMapper

open SqlMapper.Schema SqlMapper.Text

/-- What a destination receives rows as. -/
inductive Destination where
  | scalar (t : Ty)
  | dictType
  | dictInstance (entries : List (Value × Value))
  | modelType (c : ClassRef)
  | modelInstance (v : Value) (c : ClassRef)
  /-- A list type of an element class. -/
  | listType (elem : Ty)
  /-- A list instance to extend; its element class, none when no annotation names it. -/
  | listInstance (items : List Value) (elem : Option Ty)

/-- The class of a value, when an annotation names it. -/
def Value.classTy? : Value → Option Ty
  | .none => some (.builtin .noneType)
  | .bool _ => some (.builtin .bool)
  | .int _ => some (.builtin .int)
  | .float _ => some (.builtin .float)
  | .str _ => some (.builtin .str)
  | .bytes _ => some (.builtin .bytes)
  | .decimal _ => some (.builtin .decimal)
  | .datetime _ => some (.builtin .datetime)
  | .date _ => some (.builtin .date)
  | .time _ => some (.builtin .time)
  | .tuple _ => some (.builtin .tuple)
  | .list _ => some (.builtin .list)
  | .set _ => some (.builtin .set)
  | .dict _ => some (.builtin .dict)
  | .member c _ _ | .object c _ => some (.cls c)
  | _ => Option.none

/-- The fault of a destination rows cannot go to. -/
def unsupportedDestination (v : Value) : Fault := .mapping ("unsupported scan destination " ++ v.display)

/-- What a type receives rows as. -/
def Ty.destination (t : Ty) : Except Fault Destination :=
  match t with
  | .generic .list args => pure (.listType (args.head?.getD (.builtin .dict)))
  | .builtin .dict | .generic .dict _ => pure .dictType
  | .cls c => pure (if c.sort == .table || c.sort == .struct then .modelType c else .scalar t)
  | .text _ | .ref _ => throw (unsupportedDestination (.type t))
  | _ => pure (.scalar t)

/-- What a destination value receives rows as; a list without items takes
`element` as its element class. -/
def Value.destination (v : Value) (element : Option Ty) : Except Fault Destination :=
  match v with
  | .type (.generic .list args) => pure (.listType ((args.head?.orElse fun _ => element).getD (.builtin .dict)))
  | .type t => t.destination
  | .list items =>
    match element, items with
    | some e, _ => pure (.listInstance items (some e))
    | Option.none, first :: _ => pure (.listInstance items first.classTy?)
    | Option.none, [] => throw (.mapping ("cannot infer the element type of an empty list destination; " ++
        "pass list[Model] or bind a model to the query"))
  | .dict entries => pure (.dictInstance entries)
  | .object c _ => pure (.modelInstance v c)
  | .fragment f => pure (.modelInstance v { id := 0, name := f.className, sort := .struct })
  | _ => throw (unsupportedDestination v)

/-- The column that reads one result column into a class, allowing `None`. -/
def scalarColumn (name : String) (t : Ty) : Column :=
  { name := name, path := [name], ann := t, base := t.base, nullable := true, default := .none, pk := false,
    autoincrement := false, softDelete := false, isJson := false, unique := false, nullzero := false,
    sqlType := none }

/-- A row as a dictionary by column name. -/
def rowDict (names : List String) (row : List Value) : Value :=
  .dict (Value.mergeEntries ((names.zip row).map fun (n, v) => (.str n, v)))

/-- The fields of a fragment, which rows cannot fill. -/
def fragmentFields : Fragment → List String
  | .ident _ => ["name"]
  | .safe _ => ["sql"]
  | .column .. => ["name", "alias"]
  | .within _ => ["values"]
  | .template .. => ["template", "args", "sep"]
  | .group .. => ["conditions", "sep"]
  | .base => []

/-- The first column name; there is none to read when no column is named. -/
def firstName (names : List String) : Except Fault String :=
  match names with
  | n :: _ => pure n
  | [] => throw (.outOfRange "list index out of range")

/-- Maps items one after another until one fails: the results of the items
before it, and its fault. -/
def mapUntil {ε α β : Type} (f : α → Except ε β) : List α → List β × Option ε
  | [] => ([], none)
  | x :: xs =>
    match f x with
    | .ok y => let (ys, e) := mapUntil f xs; (y :: ys, e)
    | .error e => ([], some e)

/-- What each row becomes in a list of an element class: a model instance
through the class's row plan, a dictionary, or the first column read into a
scalar class. A class that takes no rows fails before any row is read. -/
def rowElement (cat : Catalog) (names : List String) (elem : Option Ty) :
    Except Fault (List Value → Except Fault Value) := do
  let some t := elem | pure fun _ => throw .unbuildable
  match ← t.destination with
  | .modelType _ => do
    let plan ← RowPlan.build cat t names
    pure (plan.create cat)
  | .dictType => pure fun row => pure (rowDict names row)
  | .scalar s => do
    let col := scalarColumn (← firstName names) s
    pure fun row => do col.parse cat (← RowPlan.cell row 0)
  | _ => throw (.mapping ("unsupported list element type " ++ t.display))

/-- Maps rows into a list of an element class. -/
def mapList (cat : Catalog) (names : List String) (rows : List (List Value)) (elem : Option Ty) :
    Except Fault (List Value) := do
  let element ← rowElement cat names elem
  rows.mapM element

/-- A mapping of rows that failed: its fault, and the list instance given as
the destination as the rows mapped before the fault extended it, when one was
given and its rows were reached. -/
structure MapFailure where
  fault : Fault
  extended : Option Value := none
  deriving Inhabited

/-- A fault of mapping that leaves every destination as it was. -/
def MapFailure.lift {α : Type} (x : Except Fault α) : Except MapFailure α :=
  x.mapError fun f => { fault := f }

/-- Extends a list instance by the rows, one element per row in order; a row
that fails leaves the list extended by the rows before it. -/
def extendList (cat : Catalog) (names : List String) (rows : List (List Value)) (items : List Value)
    (elem : Option Ty) : Except MapFailure Value := do
  let element ← MapFailure.lift (rowElement cat names elem)
  match mapUntil element rows with
  | (mapped, none) => pure (.list (items ++ mapped))
  | (mapped, some f) => throw { fault := f, extended := some (.list (items ++ mapped)) }

/-- Maps the first row into a destination that takes one row; there must be one. -/
def mapFirstRow (cat : Catalog) (names : List String) (rows : List (List Value)) (dest : Destination) :
    Except Fault Value := do
  let some row := rows.head? | throw .noRows
  match dest with
  | .scalar t => do (scalarColumn (← firstName names) t).parse cat (← RowPlan.cell row 0)
  | .dictType => pure (rowDict names row)
  | .dictInstance entries =>
    pure (.dict (Value.mergeEntries (entries ++ (names.zip row).map fun (n, v) => (.str n, v))))
  | .modelType c => do
    let plan ← RowPlan.build cat (.cls c) names
    plan.create cat row
  | .modelInstance v c =>
    match v with
    | .fragment f =>
      let fields := fragmentFields f
      match names.find? fun n => !fields.contains (lower n) with
      | some n => throw (.mapping (c.name ++ " does not have column " ++ displayString n))
      | none => throw .invalid
    | _ => do
      let plan ← RowPlan.build cat (.cls c) names
      plan.fill cat v row
  | _ => throw .noRows

/-- Maps rows into one destination. -/
def mapOne (cat : Catalog) (names : List String) (rows : List (List Value)) (dest : Destination) :
    Except MapFailure Value :=
  match dest with
  | .listType t => MapFailure.lift (return .list (← mapList cat names rows (some t)))
  | .listInstance items t => extendList cat names rows items t
  | _ => MapFailure.lift (mapFirstRow cat names rows dest)

/-- Maps rows into several destinations, one column each: all scalar types
read the first row into a tuple, all lists of a scalar class collect one list
per column. -/
def mapColumns (cat : Catalog) (names : List String) (rows : List (List Value)) (dests : List Value) :
    Except Fault Value := do
  if dests.length != names.length then
    throw (.mapping (toString dests.length ++ " destinations for " ++ toString names.length ++ " columns"))
  let kinds ← dests.mapM (·.destination none)
  let scalars := kinds.filterMap fun k => match k with
    | .scalar t => some t
    | _ => none
  if scalars.length == kinds.length then
    let some row := rows.head? | throw .noRows
    let cols := (names.zip scalars).zip row
    return .tuple (← cols.mapM fun ((n, t), v) => (scalarColumn n t).parse cat v)
  let lists ← kinds.filterMapM fun k => match k with
    | .listType t => do
      match ← t.destination with
      | .scalar s => pure (some s)
      | _ => pure none
    | _ => pure none
  if lists.length == kinds.length then
    let columns ← ((names.zip lists).zipIdx).mapM fun ((n, t), i) =>
      rows.mapM fun row => do (scalarColumn n t).parse cat (← RowPlan.cell row i)
    return .tuple (columns.map .list)
  throw (.mapping "several destinations must all be scalar types or all list[scalar] types")

/-- Maps rows with column `names` into destinations; `element` is the element
class of an empty list destination. -/
def mapRows (cat : Catalog) (names : List String) (rows : List (List Value)) (dests : List Value)
    (element : Option Ty := none) : Except MapFailure Value :=
  match dests with
  | [] => throw { fault := .mapping "scan requires a destination" }
  | [d] => do mapOne cat names rows (← MapFailure.lift (d.destination element))
  | _ => MapFailure.lift (mapColumns cat names rows dests)

end SqlMapper
