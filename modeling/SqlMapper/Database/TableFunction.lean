import SqlMapper.Database.Json
import SqlMapper.Database.Store

/-!
# Functions that give rows

A function named where a table stands gives rows. Its arguments fill its
hidden columns in order; the other columns are what it gives.

* `json_each` gives a row for each item of a JSON array or member of an
  object, or one row for a lone value;
* `json_tree` gives a row for every value of the tree, in document order;
* `pragma_table_info` and `pragma_index_list` give the rows of the pragmas
  of those names for the table their argument names.

Every value of a JSON document, and every key of an object's member, takes
a number in document order, so a row's `id` is the number of its value and
its `parent` the number of the container it is in. A path names an array's
item by `[k]` and an object's member by `.` and its key as written.

A root path picks the value that the walk starts from. `json_each` writes
the paths below it from the root path as given; `json_tree` writes them from
the document's top, and counts every array step above the picked value as
the array's first item, since the walk has not passed through that array.
-/

namespace SqlMapper.Database

mutual

/-- The number of values and keys a tree holds, itself included. -/
def JsonNode.nodeCount : JsonNode → Nat
  | .array items => 1 + itemsCount items
  | .object members => 1 + membersCount members
  | _ => 1

/-- The number of values and keys the items of an array hold. -/
def itemsCount : List JsonNode → Nat
  | [] => 0
  | x :: rest => x.nodeCount + itemsCount rest

/-- The number of values and keys the members of an object hold, each key
counted once. -/
def membersCount : List (List UInt8 × JsonNode) → Nat
  | [] => 0
  | (_, v) :: rest => 1 + v.nodeCount + membersCount rest

end

/-- The path step to an array's item. -/
def indexStep (k : Nat) : List UInt8 := utf8 ("[" ++ toString k ++ "]")

/-- The path step to an object's member: a dot and its key as written. -/
def keyStep (label : List UInt8) : List UInt8 := 46 :: label

/-- A row of a JSON walk: its key, its value, the numbers of the value and
of the container it is in, the path to it, and the path to its container. -/
structure JsonRow where
  key : Datum
  node : JsonNode
  id : Nat
  parent : Option Nat
  fullKey : List UInt8
  path : List UInt8

mutual

/-- The rows of a tree walked in document order: the value itself, then the
rows of each item or member below it, the value's number as their parent. -/
def JsonNode.treeRows (n : JsonNode) (id : Nat) (key : Datum) (parent : Option Nat)
    (fullKey path : List UInt8) : List JsonRow :=
  { key, node := n, id, parent, fullKey, path } ::
    match n with
    | .array items => itemRows items id (id + 1) 0 fullKey
    | .object members => memberRows members id (id + 1) fullKey
    | _ => []

/-- The rows of the items of an array, from the number of the first item and
its index. -/
def itemRows : List JsonNode → Nat → Nat → Nat → List UInt8 → List JsonRow
  | [], _, _, _, _ => []
  | x :: rest, up, pos, k, base =>
    x.treeRows pos (.integer k) (some up) (base ++ indexStep k) base ++
      itemRows rest up (pos + x.nodeCount) (k + 1) base

/-- The rows of the members of an object, from the number of the first key;
a member's value is numbered after its key. -/
def memberRows : List (List UInt8 × JsonNode) → Nat → Nat → List UInt8 → List JsonRow
  | [], _, _, _ => []
  | (label, v) :: rest, up, pos, base =>
    v.treeRows (pos + 1) (.text (unescapeJson label)) (some up) (base ++ keyStep label) base ++
      memberRows rest up (pos + 1 + v.nodeCount) base

end

/-- The rows of `json_each` for the items of an array, from the number of
the first item and its index. -/
def eachItemRows : List JsonNode → Nat → Nat → List UInt8 → List JsonRow
  | [], _, _, _ => []
  | x :: rest, pos, k, root =>
    { key := .integer k, node := x, id := pos, parent := none, fullKey := root ++ indexStep k, path := root } ::
      eachItemRows rest (pos + x.nodeCount) (k + 1) root

/-- The rows of `json_each` for the members of an object, from the number of
the first key. -/
def eachMemberRows : List (List UInt8 × JsonNode) → Nat → List UInt8 → List JsonRow
  | [], _, _ => []
  | (label, v) :: rest, pos, root =>
    { key := .text (unescapeJson label), node := v, id := pos + 1, parent := none,
      fullKey := root ++ keyStep label, path := root } ::
      eachMemberRows rest (pos + 1 + v.nodeCount) root

/-- The rows of `json_each` from a value: one for each item or member, or
the value itself when it is neither an array nor an object. -/
def JsonNode.eachRows (n : JsonNode) (id : Nat) (root : List UInt8) : List JsonRow :=
  match n with
  | .array items => eachItemRows items (id + 1) 0 root
  | .object members => eachMemberRows members (id + 1) root
  | _ => [{ key := .null, node := n, id, parent := none, fullKey := root, path := root }]

/-- A value a root path picks: the value, its number, its key when an
object holds it, and the paths to it and to its container as `json_tree`
writes them. -/
structure JsonPlace where
  node : JsonNode
  id : Nat
  label : Option (List UInt8) := none
  fullKey : List UInt8
  path : List UInt8

/-- The value of a member by its key as written, with the number of the key. -/
def memberAt : List (List UInt8 × JsonNode) → List UInt8 → Nat → Option (JsonNode × Nat)
  | [], _, _ => none
  | (label, v) :: rest, k, pos => if label == k then some (v, pos) else memberAt rest k (pos + 1 + v.nodeCount)

/-- An item of an array by its index, with its number. -/
def itemAt : List JsonNode → Nat → Nat → Option (JsonNode × Nat)
  | [], _, _ => none
  | x :: rest, i, pos => match i with
    | 0 => some (x, pos)
    | i + 1 => itemAt rest i (pos + x.nodeCount)

/-- The place below another that a path names, the steps read as a lookup
reads them; none when a step finds nothing. -/
def JsonPlace.locate : Nat → JsonPlace → List UInt8 → Except Fault (Option JsonPlace)
  | 0, _, _ => pure none
  | fuel + 1, place, steps =>
    let below := fun (v : JsonNode) (id : Nat) (label : Option (List UInt8)) (step : List UInt8) =>
      ({ node := v, id, label, fullKey := place.fullKey ++ step, path := place.fullKey } : JsonPlace)
    match steps with
    | [] => pure (some place)
    | 46 :: more =>
      match place.node with
      | .object members => do
        let (k, after) ← readKeyStep more
        match memberAt members k (place.id + 1) with
        | some (v, pos) => JsonPlace.locate fuel (below v (pos + 1) (some k) (keyStep k)) after
        | none => pure none
      | _ => pure none
    | 91 :: body =>
      let item := fun (items : List JsonNode) (i : Nat) (after : List UInt8) =>
        match itemAt items i (place.id + 1) with
        | some (v, pos) => JsonPlace.locate fuel (below v pos none (indexStep 0)) after
        | none => pure none
      match body with
      | 35 :: _ =>
        match place.node with
        | .array items => do
          let (step, after) ← readIndexStep steps body
          match step.position items.length with
          | some i => item items i after
          | none => pure none
        | _ => pure none
      | _ => do
        let (step, after) ← readIndexStep steps body
        match place.node, step with
        | .array items, .index i => item items i after
        | _, _ => pure none
    | _ => throw (jsonPathError steps)

/-- Whether a tree is an array or an object. -/
def JsonNode.isContainer : JsonNode → Bool
  | .array _ | .object _ => true
  | _ => false

/-- The columns of a JSON walk's row: its key, value, type, atom (the value
unless it is an array or an object), number, parent, paths, and the
document and root path the walk was given. -/
def JsonRow.values (r : JsonRow) (doc root : List UInt8) : Except Fault (List Datum) := do
  let (v, _) ← r.node.toValue
  let atom := if r.node.isContainer then .null else v
  pure [r.key, v, .text (utf8 r.node.typeName), atom, .integer r.id, (r.parent.map (.integer ·)).getD .null,
    .text r.fullKey, .text r.path, .text doc, .text root]

/-- The rows of `json_each`, or of `json_tree` when the walk descends, over a
document from the value its root path picks. A `NULL` document or root
path, or a path that finds nothing, gives no rows. -/
def jsonWalkRows (descends : Bool) (args : List Datum) : Except Fault (List (List Datum)) := do
  let doc := args[0]?.getD .null
  match ← jsonArgument doc with
  | none => pure []
  | some top =>
    let docText := doc.textBytes?.getD []
    let whole : JsonPlace := { node := top, id := 0, fullKey := utf8 "$", path := utf8 "$" }
    let picked : Option (Option JsonPlace × List UInt8) ← match args[1]? with
      | none => pure (some (some whole, utf8 "$"))
      | some r => match r.cText? with
        | none => pure none
        | some p => match p with
          | 36 :: rest => do pure (some (← whole.locate (p.length + 1) rest, p))
          | _ => throw (jsonPathError p)
    match picked with
    | some (some place, rootText) =>
      let rows := if descends then
          let key := match place.label with
            | some l => if place.node.isContainer then Datum.text (unescapeJson l) else .null
            | none => .null
          place.node.treeRows place.id key none place.fullKey place.path
        else place.node.eachRows place.id rootText
      rows.mapM (·.values docText rootText)
    | _ => pure []

/-- The rows of `PRAGMA table_info`: for each column of a table but its
generated ones, its number among those, name, declared type, whether it
refuses `NULL`, its default as written and its place in the primary key. -/
def tableInfoRows (t : TableDef) : List (List Datum) :=
  (t.columns.filter (·.generated.isNone)).zipIdx.map fun (c, i) =>
    [.integer i, .ofString c.name, .ofString c.declared, .ofBool c.notNull.isSome,
      match c.default with
      | some (_, text) => .ofString text
      | none => .null,
      .integer c.keyPosition]

/-- The rows of `PRAGMA index_list`: each index of a table, the latest
first, with whether it is unique, what made it (a statement, the primary
key, or a unique constraint) and whether it is partial. -/
def indexListRows (s : Store) (table : String) : List (List Datum) :=
  (s.indexesOf table).reverse.zipIdx.map fun (ix, k) =>
    [.integer k, .ofString ix.name, .ofBool ix.unique,
     .ofString (if ix.sql.isSome then "c" else if ix.primary then "pk" else "u"), .ofBool ix.filter.isSome]

/-- The table a pragma function's first argument names. -/
def pragmaTable? (args : List Datum) : Option String :=
  (args[0]?.bind Datum.cText?).bind fun bs => String.fromUTF8? (ByteArray.mk bs.toArray)

/-- The columns of each function that gives rows, then its hidden columns,
which its arguments fill in order; none for a name that is not one. -/
def rowFunctionColumns? (name : String) : Option (List String × List String) :=
  match name with
  | "json_each" | "json_tree" => some (["key", "value", "type", "atom", "id", "parent", "fullkey", "path"], ["json", "root"])
  | "pragma_table_info" => some (["cid", "name", "type", "notnull", "dflt_value", "pk"], ["arg", "schema"])
  | "pragma_index_list" => some (["seq", "name", "unique", "origin", "partial"], ["arg", "schema"])
  | _ => none

/-- The rows a function gives for its arguments. -/
def rowFunctionRows (store : Store) (name : String) (args : List Datum) : Except Fault (List (List Datum)) :=
  match name with
  | "json_each" => jsonWalkRows false args
  | "json_tree" => jsonWalkRows true args
  | "pragma_table_info" => pure (((pragmaTable? args).bind store.table?).elim [] (tableInfoRows ·.info))
  | "pragma_index_list" => pure ((pragmaTable? args).elim [] (indexListRows store))
  | _ => pure []

end SqlMapper.Database
