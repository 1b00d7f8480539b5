import SqlMapper.Query.Build
import SqlMapper.Model.Zero

/-!
# Hooks

A model class may declare hooks, named for the moment they run at: before
and after a select, an insert, an update and a delete. A hook runs on the
query's target: its first bound instance, or a fresh zero instance of its
model class when a class is bound, so that what a hook sets on a zero
instance is lost.

A hook that runs is recorded with the class of its target before it does
anything, then does what it declares in order: sets a field of the target,
applies builder steps to the running query, or fails with a runtime error.
The record stays when the hook fails.

A target without the hook but with a field of its name that holds a value
other than `None` has that value called, and no stored value can be called.
-/

namespace SqlMapper

/-- A hook that ran, with the class of the instance it ran on. -/
structure HookCall where
  hook : String
  className : String
  deriving Inhabited

namespace Query

/-- The instance a query's hooks run on, and whether it is the bound one
rather than a zero instance of the bound class. -/
def hookTarget (cat : Catalog) (q : Query) : Option (Value × Bool) :=
  match q.instances with
  | v :: _ => some (v, true)
  | [] =>
    match q.modelType? with
    | some (.cls c) =>
      if c.sort == .table || c.sort == .struct then some (cat.zeroOf (.cls c), false) else none
    | _ => none

/-- The query with its first bound instance replaced. -/
def withTarget (q : Query) (v : Value) : Query :=
  match q.model with
  | some (.list (_ :: rest)) => { q with model := some (.list (v :: rest)) }
  | some (.list []) | none => q
  | some _ => { q with model := some v }

/-- The query with its bound instances replaced, as a list when a list was bound. -/
def withInstances (q : Query) (insts : List Value) : Query :=
  if insts.isEmpty then q
  else if q.boundList then { q with model := some (.list insts) }
  else { q with model := some (insts.headD .none) }

end Query

/-- The hook a writing query calls before it runs. -/
def QueryKind.beforeHook? : QueryKind → Option String
  | .insert => some "before_insert"
  | .update => some "before_update"
  | .delete => some "before_delete"
  | _ => none

/-- An instance with one field set; only a field of its class can be set. -/
def assignField (cat : Catalog) (v : Value) (attr : String) (x : Value) : Except Fault Value :=
  match v with
  | .object c fields =>
    if (cat.fields c.id).any (·.name == attr) then
      if fields.any (·.1 == attr) then
        pure (.object c (fields.map fun (n, old) => if n == attr then (n, some x) else (n, old)))
      else pure (.object c (fields ++ [(attr, some x)]))
    else throw (.badValue ("\"" ++ c.name ++ "\" object has no field \"" ++ attr ++ "\""))
  | _ => pure v

/-- Does a hook's actions in order on the running query and the target, the
bound instance of the query kept the same as the target. -/
def runHookActions (cat : Catalog) (bound : Bool) : List HookAction → Query → Value → Except Fault Query
  | [], q, _ => pure q
  | .assign attr x :: rest, q, v => do
    let v ← assignField cat v attr x
    runHookActions cat bound rest (if bound then q.withTarget v else q) v
  | .steps steps :: rest, q, v => do runHookActions cat bound rest (← q.run cat steps) v
  | .fail message :: _, _, _ => throw (.raised message)

/-- Calls the hook of a name on a query's target, giving the hooks that ran
and the query as the hook left it, or the fault it failed with. -/
def Query.callHook (cat : Catalog) (name : String) (q : Query) : List HookCall × Except Fault Query :=
  match q.hookTarget cat with
  | some (v@(.object c fields), bound) =>
    match cat.hook? c.id name with
    | some actions => ([⟨name, c.name⟩], runHookActions cat bound actions q v)
    | none =>
      match fields.lookup name with
      | some (some Value.none) | some none | none => ([], pure q)
      | some (some x) => ([], throw (.badType ("'" ++ x.typeName ++ "' object is not callable")))
  | _ => ([], pure q)

end SqlMapper
