import SqlMapper.Service.TypeSpec
import SqlMapper.Model.Validate
import SqlMapper.Calendar.Iso
import SqlMapper.Text.Template
import SqlMapper.Value.Coerce

/-!
# Values in requests

How request documents become values. Plain JSON maps directly: integers stay
integers, numbers with a fraction or an exponent become floats. An object
whose first key starts with `$` is a tagged value (`{"$decimal": "1.50"}`,
`{"$model": "Book", "fields": {...}}`); every other object is a dictionary.

Builder calls `[method, args...]` become query steps. Most arguments are
values; a few methods take classes, nested calls or sub-queries. A call whose
arguments cannot be read becomes a broken step, so that its fault arises in
its turn when the steps are applied.

Model definitions become the catalog of the request, each definition seeing
the classes before it.
-/

namespace SqlMapper.Service

open SqlMapper.Json

open SqlMapper.Text SqlMapper.Number SqlMapper.Calendar

/-- What decoding sees: the declared classes, the variables of a session, and
whether there is a database to build sub-queries on. -/
structure Scope where
  catalog : Catalog
  vars : List (String × Value)
  hasDatabase : Bool := true
  deriving Inhabited

/-- Reads bytes from hexadecimal text, blanks between bytes allowed; `pos` is the place of the first character. -/
def hexBytesFrom (pos : Nat) : List Char → Except Fault (List UInt8)
  | [] => pure []
  | c :: rest =>
    if c == ' ' || c == '\t' || c == '\n' || c == '\r' || c == '\x0b' || c == '\x0c' then hexBytesFrom (pos + 1) rest
    else
      let bad (p : Nat) : Fault := .badValue ("non-hexadecimal number found in fromhex() arg at position " ++ toString p)
      match hexDigit? c, rest with
      | some hi, d :: rest' =>
        match hexDigit? d with
        | some lo => do
          let more ← hexBytesFrom (pos + 2) rest'
          pure ((hi * 16 + lo).toUInt8 :: more)
        | none => throw (bad (pos + 1))
      | some _, [] => throw (bad (pos + 1))
      | none, _ => throw (bad pos)

/-- The fault of calendar text that is no ISO form. -/
def badIso (s : String) : Fault := .badValue ("Invalid isoformat string: " ++ displayString s)

/-- The value ISO text gives, or the fault of text that gives none. -/
def isoValue {α : Type} (s : String) (r : Except IsoError α) : Except Fault α :=
  match r with
  | .ok x => pure x
  | .error .malformed => throw (badIso s)
  | .error (.outOfRange m) => throw (.badValue m)

/-- The methods a builder call may name. -/
def builderMethods : List String :=
  ["model", "with_", "distinct", "distinct_on", "table", "table_expr", "model_table_expr", "column",
    "column_expr", "exclude_column", "where_pk", "where", "where_or", "where_group", "where_deleted",
    "where_all_with_deleted", "group", "group_expr", "having", "order", "order_expr", "limit", "offset",
    "for_", "union", "union_all", "intersect", "intersect_all", "except_", "except_all", "join", "join_on",
    "join_on_or", "relation", "returning", "apply", "value", "on", "set", "ignore", "omit_zero",
    "force_delete", "if_not_exists", "with_foreign_keys", "foreign_key", "if_exists", "cascade", "conn"]

/-- The methods that combine a query with another one. -/
def setOperations : List String :=
  ["union", "union_all", "intersect", "intersect_all", "except_", "except_all"]

/-- The query kind of its name. -/
def QueryKind.ofName? : String → Option QueryKind
  | "select" => some .select
  | "insert" => some .insert
  | "update" => some .update
  | "delete" => some .delete
  | "create_table" => some .createTable
  | "drop_table" => some .dropTable
  | _ => none

/-- Whether a value can be a member of a set or a key of a dictionary. -/
def isHashable : Value → Bool
  | .list _ | .dict _ | .set _ | .object .. => false
  | .tuple items => items.all fun v => match v with
    | .list _ | .dict _ | .set _ | .object .. => false
    | _ => true
  | _ => true

/-- The fault for an item that cannot be hashed. -/
def unhashable (v : Value) : Fault := .badType ("unhashable type: " ++ displayString v.typeName)

/-- The fault of reading an item past the end of a call. -/
def listIndexFault : Fault := .outOfRange "list index out of range"

/-- The step of a call given as text: its first character names the method,
and no method has a one-character name. -/
def textCallStep (s : String) : Step :=
  match s.toList with
  | [] => .broken (.outOfRange "string index out of range")
  | c :: _ => .broken (.badValue ("unknown builder method " ++ displayString c.toString))

/-- The fault of a call whose first item is not a method's name. -/
def methodFault (m : Doc) : Fault :=
  match m with
  | .arr _ | .obj _ => .badType ("unhashable type: " ++ displayString m.typeName)
  | _ => .badValue ("unknown builder method " ++ m.plain.display)

mutual

/-- Reads a value, `fuel` levels deep. -/
def readValue : Nat → Scope → Doc → Except Fault Value
  | 0, _, _ => throw (.badValue "document too deep")
  | fuel + 1, scope, d =>
    match d with
    | .null => pure .none
    | .bool b => pure (.bool b)
    | .int n => pure (.int n)
    | .num t => pure (.float ((readFloat? t.toList).getD 0.0))
    | .str s => pure (.str s)
    | .arr items => return .list (← readValues fuel scope items)
    | .obj [] => pure (.dict [])
    | .obj ((key, body) :: rest) =>
      if key.startsWith "$" then readTagged fuel scope key body rest
      else return .dict (← readEntries fuel scope ((key, body) :: rest))

/-- Reads values in order. -/
def readValues : Nat → Scope → List Doc → Except Fault (List Value)
  | _, _, [] => pure []
  | fuel, scope, d :: rest => return (← readValue fuel scope d) :: (← readValues fuel scope rest)

/-- Reads object members as dictionary entries keyed by their names. -/
def readEntries : Nat → Scope → List (String × Doc) → Except Fault (List (Value × Value))
  | _, _, [] => pure []
  | fuel, scope, (k, d) :: rest => return (.str k, ← readValue fuel scope d) :: (← readEntries fuel scope rest)

/-- The text a field of a fragment takes, validated as `str`. -/
def validatedText (cat : Catalog) (v : Value) : Except Fault String :=
  match cat.validate (.builtin .str) v with
  | some (.str s) => pure s
  | _ => throw .invalid

/-- A condition of a group, validated as a fragment: a fragment as it is, a
dictionary as the base fragment. -/
def conditionField (v : Value) : Except Fault Fragment :=
  match v with
  | .fragment f => pure f
  | .dict _ => pure .base
  | _ => throw .invalid

/-- Calls an enumeration with keyword arguments: its `value` names the member
with that value. -/
def enumCall (cat : Catalog) (c : ClassRef) (fields : List (Value × Value)) : Except Fault Value := do
  let accepted := ["value", "names", "module", "qualname", "type", "start", "boundary"]
  for (k, _) in fields do
    match k with
    | .str key => if !accepted.contains key then
        throw (.badType ("EnumType.__call__() got an unexpected keyword argument " ++ displayString key))
    | _ => throw (.badType "keywords must be strings")
  match (fields.find? fun (k, _) => k.keyIs "value").map (·.2) with
  | none => throw (.badType "EnumType.__call__() missing 1 required positional argument: 'value'")
  | some v =>
    match v with
    | .member d _ _ => if d == c then pure v else
        match cat.memberOf? c v with
        | some m => pure m
        | none => throw (.badValue (v.display ++ " is not a valid " ++ c.name))
    | _ =>
      match cat.memberOf? c v with
      | some m => pure m
      | none => throw (.badValue (v.display ++ " is not a valid " ++ c.name))

/-- Reads a tagged value from its tag, the document under it and the members after it. -/
def readTagged : Nat → Scope → String → Doc → List (String × Doc) → Except Fault Value
  | 0, _, _, _, _ => throw (.badValue "document too deep")
  | fuel + 1, scope, tag, body, rest =>
    let cat := scope.catalog
    match tag, body with
    | "$bytes", .str s => return .bytes (← hexBytesFrom 0 s.toList)
    | "$float", .str s =>
      match (numeralAscii? s.toList).bind fun cs => readFloat? (trimAscii cs) with
      | some x => pure (.float x)
      | none => throw (.badValue ("could not convert string to float: " ++ displayString s))
    | "$decimal", .str s =>
      match decimalOfText? s with
      | some x => pure (.decimal x)
      | none => throw .decimalSyntax
    | "$datetime", .str s => .datetime <$> isoValue s (DateTime.readIso s)
    | "$date", .str s => .date <$> isoValue s (Date.readIso s)
    | "$time", .str s => .time <$> isoValue s (TimeOfDay.readIso s)
    | "$tuple", .arr items => return .tuple (← readValues fuel scope items)
    | "$set", .arr items => do
      let xs ← readValues fuel scope items
      match xs.find? (fun x => !isHashable x) with
      | some x => throw (unhashable x)
      | none => pure (.set (Value.setItems xs))
    | "$dict", .arr pairs => do
      let entries ← readPairs fuel scope pairs
      match entries.find? (fun e => !isHashable e.1) with
      | some (k, _) => throw (unhashable k)
      | none => pure (.dict (Value.mergeEntries entries))
    | "$enum", .arr [.str cls, .str member] =>
      match cat.latest? cls with
      | some c =>
        match (cat.members c.id).lookup member with
        | some v =>
          -- a member whose value an earlier member has is that earlier member
          match (cat.members c.id).find? (fun (_, w) => Value.same v w) with
          | some (name, w) => pure (.member c name w)
          | none => pure (.member c member v)
        | none => throw (.missingKey member)
      | none => throw (.missingKey cls)
    | "$ident", .str s => pure (.fragment (.ident s))
    | "$safe", .str s => pure (.fragment (.safe s))
    | "$colref", body => do
      let args ← match body with
        | .arr items => readValues fuel scope items
        | d => do pure [← readValue fuel scope d]
      if let some f := Fault.arity? "ColumnRef.__init__" ["name"] 1 args.length then throw f
      let name ← validatedText cat (args[0]?.getD .none)
      let aliasName ← match args[1]? with
        | none | some Value.none => pure none
        | some v => some <$> validatedText cat v
      pure (.fragment (.column name aliasName))
    | "$in", body => return .fragment (.within (← (← readValue fuel scope body).elements))
    | "$sq", body => do
      let args ← match body with
        | .arr items => readValues fuel scope items
        | d => do pure [← readValue fuel scope d]
      if let some f := Fault.arity? "SafeQuery.__init__" ["template"] 2 args.length then throw f
      let items ← (args[1]?.getD (Value.tuple [])).elements
      let template ← validatedText cat (args[0]?.getD .none)
      let sep ← match args[2]? with
        | some v => validatedText cat v
        | none => pure ""
      let expected := countPlaceholders template
      if expected ≠ items.length then
        throw (.configuration ("query " ++ displayString template ++ " has " ++ toString expected ++
          " placeholder(s) but " ++ toString items.length ++ " argument(s) were given"))
      pure (.fragment (.template template items sep))
    | "$group", body => do
      match ← readValue fuel scope body with
      | .dict entries =>
        let keyword := fun (k : String) => (entries.find? fun (key, _) => key.keyIs k).map (·.2)
        let conds ← match (keyword "conditions" : Option Value) with
          | some (.list xs) | some (.tuple xs) | some (.set xs) => xs.mapM conditionField
          | some _ => throw .invalid
          | none => pure []
        let sep ← match keyword "sep" with
          | some v => validatedText cat v
          | none => pure " AND "
        pure (.fragment (.group conds sep))
      | v => throw (.badType ("rowbound.expressions._bases.WhereGroup() argument after ** must be a mapping, not " ++
          v.typeName))
    | "$bare_fragment", _ => pure (.fragment .base)
    | "$query", .obj members =>
      if scope.hasDatabase then return .query (← readPlan fuel scope members)
      else
        let kind := ((members.lookup "kind").map (·.plain.text)).getD "select"
        throw (.missingAttribute ("'NoneType' object has no attribute 'new_" ++ kind ++ "'"))
    | "$model", .str name =>
      match cat.latest? name with
      | none => throw (.missingKey name)
      | some c => do
        let fields ← match rest.lookup "fields" with
          | some (.obj ms) => readEntries fuel scope ms
          | some d => throw (.missingAttribute ("'" ++ d.typeName ++ "' object has no attribute 'items'"))
          | none => pure []
        let construct := match rest.lookup "construct" with
          | some d => d.truthy
          | none => false
        if c.sort == .enum then
          if construct then throw (.missingAttribute "model_construct")
          enumCall cat c fields
        else if construct then
          pure (.object c ((cat.fields c.id).map fun f =>
            (f.name, ((fields.find? fun (k, _) => k.keyIs f.name).map (·.2)).orElse fun _ => f.default)))
        else
          match cat.validate (.cls c) (.dict fields) with
          | some v => pure v
          | none => throw .invalid
    | "$var", .str name =>
      match scope.vars.lookup name with
      | some v => pure v
      | none => throw (.missingKey name)
    | "$type", spec => do
      let (t, _) ← readSpec cat spec
      pure (.type t)
    | "$list_of", spec => do
      let (t, _) ← readSpec cat spec
      pure (.type (.generic .list [t]))
    | _, _ => throw (.badValue ("unknown tag " ++ displayString tag))

/-- Reads key and value pairs. -/
def readPairs : Nat → Scope → List Doc → Except Fault (List (Value × Value))
  | _, _, [] => pure []
  | fuel, scope, .arr [k, v] :: rest =>
    return (← readValue fuel scope k, ← readValue fuel scope v) :: (← readPairs fuel scope rest)
  | _, _, _ :: _ => throw (.badValue "dictionary update sequence element has wrong length")

/-- Reads a sub-query: its kind, `select` unless given, and its calls. -/
def readPlan : Nat → Scope → List (String × Doc) → Except Fault Plan
  | fuel, scope, members => do
    let kind ← match members.lookup "kind" with
      | some (.str k) =>
        match QueryKind.ofName? k with
        | some kind => pure kind
        | none => throw (.missingKey k)
      | _ => pure .select
    let calls := match members.lookup "calls" with
      | some (.arr cs) => cs
      | _ => []
    return .mk kind (readSteps fuel scope calls)

/-- Reads builder calls into steps. -/
def readSteps : Nat → Scope → List Doc → List Step
  | _, _, [] => []
  | fuel, scope, d :: rest => readStep fuel scope d :: readSteps fuel scope rest

/-- Reads one builder call into a step: its first item names the method,
which must be one a builder allows, and the rest are its arguments. -/
def readStep : Nat → Scope → Doc → Step
  | 0, _, _ => .broken (.badValue "document too deep")
  | fuel + 1, scope, d =>
    match d with
    | .arr (.str name :: args) =>
      if !builderMethods.contains name then
        .broken (.badValue ("unknown builder method " ++ displayString name))
      else
        match readCallArgs fuel scope name args with
        | .ok step => step
        | .error f => .broken f
    | .arr [] => .broken listIndexFault
    | .arr (m :: _) => .broken (methodFault m)
    | .str s => textCallStep s
    | .obj _ => .broken (.missingKey "0")
    | _ => .broken (.badType ("'" ++ d.typeName ++ "' object is not subscriptable"))

/-- Reads the arguments of a call by the method's needs; a method with a
fixed signature takes the arguments it needs by position and leaves the
rest. -/
def readCallArgs : Nat → Scope → String → List Doc → Except Fault Step
  | 0, _, _, _ => throw (.badValue "document too deep")
  | fuel + 1, scope, name, args => do
    let cat := scope.catalog
    let arg := fun (i : Nat) => match args[i]? with
      | some d => pure d
      | none => throw listIndexFault
    match name with
    | "model" =>
      match ← arg 0 with
      | .str cls =>
        -- a name is read as a type: a class, a builtin class, else the name itself
        match (← readSpec cat (.str cls)).1 with
        | .text s => pure (.call name [.str s])
        | t => pure (.call name [.type t])
      | .obj [("list_of", spec)] => do
        let (t, _) ← readSpec cat spec
        pure (.call name [.type (.generic .list [t])])
      | m => return .call name [← readValue fuel scope m]
    | "where_group" =>
      let sep ← readValue fuel scope (← arg 0)
      pure (.group sep (readCallback fuel scope (← arg 1)))
    | "apply" => pure (.apply (readCallback fuel scope (← arg 0)))
    | "relation" =>
      let path ← readValue fuel scope (← arg 0)
      match args[1]? with
      | none | some Doc.null => pure (.relation [path] none)
      | some calls => pure (.relation [path] (some (readCallback fuel scope calls)))
    | "with_" =>
      let cte ← readValue fuel scope (← arg 0)
      return .call name [cte, .query (← readSubPlan fuel scope (← arg 1))]
    | "conn" =>
      match ← arg 0 with
      | .str "db" => pure (.call name [.database])
      | _ => pure (.call name [.none])
    | _ =>
      if setOperations.contains name then return .call name [.query (← readSubPlan fuel scope (← arg 0))]
      else return .call name (← readValues fuel scope args)

/-- Reads the calls of a callback, which goes through them in turn when the
builder calls it: the items of a list, the characters of a text, the keys
of an object; anything else cannot be gone through. -/
def readCallback : Nat → Scope → Doc → List Step
  | fuel, scope, .arr calls => readSteps fuel scope calls
  | _, _, .str s => s.toList.map fun c => textCallStep c.toString
  | _, _, .obj members => members.map fun (k, _) => textCallStep k
  | _, _, d => [.broken (.badType ("'" ++ d.typeName ++ "' object is not iterable"))]

/-- Reads a sub-query's document, which must be an object. -/
def readSubPlan : Nat → Scope → Doc → Except Fault Plan
  | fuel, scope, .obj members => readPlan fuel scope members
  | _, _, d => throw (.missingAttribute ("'" ++ d.typeName ++ "' object has no attribute 'get'"))

end

/-- Reads a value. -/
def Scope.read (scope : Scope) (d : Doc) : Except Fault Value := readValue (d.depth + 2) scope d

/-- Reads builder calls into steps. -/
def Scope.steps (scope : Scope) (calls : List Doc) : List Step :=
  readSteps (depthItems calls + 3) scope calls

/-- Reads one hook action. -/
def readAction (scope : Scope) (d : Doc) : Except Fault HookAction :=
  match d with
  | .obj [("set", .arr [.str attr, v])] => return .assign attr (← scope.read v)
  | .obj [("query", .arr calls)] => pure (.steps (scope.steps calls))
  | .obj [("raise", .str msg)] => pure (.fail msg)
  | _ => throw (.badValue ("unknown action " ++ d.plain.display))

/-- Reads the fields of a model definition in order, each type seeing the classes declared before it. -/
def readFields (scope : Scope) : List Doc → Except Fault (List Field × Catalog)
  | [] => pure ([], scope.catalog)
  | .obj members :: rest => do
    let name ← match members.lookup "name" with
      | some (.str n) => pure n
      | _ => throw (.missingKey "name")
    let spec ← match members.lookup "type" with
      | some t => pure t
      | none => throw (.missingKey "type")
    let (ty, cat) ← readSpec scope.catalog spec
    let ty ← if hasTags members then pure (Ty.mkAnnotated ty (← tagsOf members)) else pure ty
    let scope := { scope with catalog := cat }
    let default ← match members.lookup "default" with
      | some d => pure (some (← scope.read d))
      | none => pure none
    let (more, cat) ← readFields scope rest
    pure (⟨name, ty, default⟩ :: more, cat)
  | d :: _ => throw (.badValue ("bad field " ++ d.plain.display))

/-- Declares the class of one model definition. -/
def readModel (scope : Scope) (d : Doc) : Except Fault Catalog := do
  let members ← match d with
    | .obj ms => pure ms
    | _ => throw (.badValue ("bad model " ++ d.plain.display))
  let name ← match members.lookup "name" with
    | some (.str n) => pure n
    | _ => throw (.missingKey "name")
  let cat := scope.catalog
  let parent ← match members.lookup "base" with
    | some (.str b) =>
      match cat.latest? b with
      | some c => pure (some c)
      | none => throw (.missingKey b)
    | _ => pure none
  let sort : ClassSort := match parent with
    | some p => p.sort
    | none => if optionalText members "kind" == some "struct" then .struct else .table
  let fieldDocs := match members.lookup "fields" with
    | some (.arr fs) => fs
    | _ => []
  let (fields, cat) ← readFields scope fieldDocs
  -- a plain structure has no schema for a class it does not know
  if sort == .struct && fields.any (·.ann.namesDerived) then throw .unbuildable
  let scope := { scope with catalog := cat }
  let hooks ← match members.lookup "hooks" with
    | some (.obj hs) => hs.mapM fun (h, acts) => do
      let acts ← match acts with
        | .arr xs => xs.mapM (readAction scope)
        | _ => pure []
      pure (h, acts)
    | _ => pure []
  let decl : ModelDecl :=
    { tableName := optionalText members "table_name"
      aliasName := optionalText members "alias"
      parent := parent.map (·.id)
      fields := fields
      hooks := hooks }
  pure (cat.declare name sort (.model decl)).1

/-- The catalog of a request's model definitions, declared in order. -/
def readModels (defs : List Doc) : Except Fault Catalog :=
  defs.foldlM (fun cat d => readModel { catalog := cat, vars := [] } d) Catalog.empty

end SqlMapper.Service
