import SqlMapper.Session.Basic

/-!
# Variables that share objects

A session's variables hold values, and the lists, dictionaries and instances
inside them are objects that several variables may hold at once: a value
read from a step that names another variable holds that variable's object,
not a copy. Every object a variable holds has an identity, kept by its path
in the variable; two places with one identity hold one object.

When an object changes in place (rows appended to a list, a dictionary
updated, an instance filled or written back), every place that holds it sees
the change. The objects inside it at the same paths stay the same objects,
changed in turn wherever else they are held; those that are new take new
identities. Binding a variable anew gives it a new object and leaves the
objects other variables hold alone.
-/

namespace SqlMapper

namespace Session

/-- A new identity. -/
def freshIdentity : SessionM Nat := do
  let s ← get
  set { s with nextIdentity := s.nextIdentity + 1 }
  pure s.nextIdentity

/-- The identities of the objects a variable holds, by path. -/
def identitiesOf (name : String) : SessionM (List (List PathStep × Nat)) :=
  return ((← get).identities.lookup name).getD []

/-- Binds a variable to a value whose parts at some paths are the objects
other variables hold whole: the objects inside those parts keep their
identities, and every other object of the value is new. -/
def bindVar (name : String) (v : Value) (shared : List (List PathStep × String)) : SessionM Unit := do
  let old := (← get).identities
  let inherited := fun (p : List PathStep) => shared.findSome? fun (q, m) =>
    (pathAfter? q p).bind fun rest => (((old.lookup m).getD []).find? (fun e => samePath rest e.1)).map (·.2)
  let entries ← v.objectPaths.mapM fun p => do
    match inherited p with
    | some i => pure (p, i)
    | Option.none => pure (p, ← freshIdentity)
  modify fun s => { s with
    vars := (s.vars.filter (·.1 != name)) ++ [(name, v)]
    identities := (s.identities.filter (·.1 != name)) ++ [(name, entries)] }

/-- The places that hold the object of an identity: a variable and a path in it. -/
def placesOf (ident : Nat) : SessionM (List (String × List PathStep)) :=
  return (← get).identities.flatMap fun (n, es) => (es.filter (·.2 == ident)).map fun (p, _) => (n, p)

/-- A variable's value and identities with the object at a path given a new
state, the objects inside it taking the given identities by their paths
relative to it. -/
def placeObject (s : SqlMapper.Session) (name : String) (p : List PathStep) (v : Value)
    (inner : List (List PathStep × Nat)) : SqlMapper.Session :=
  let below := fun (q : List PathStep) => match pathAfter? p q with
    | some (_ :: _) => true
    | _ => false
  { s with
    vars := s.vars.map fun (n, x) => if n == name then (n, x.setAt p v) else (n, x)
    identities := s.identities.map fun (n, es) =>
      if n == name then (n, es.filter (fun e => !below e.1) ++ inner.map fun (r, i) => (p ++ r, i)) else (n, es) }

/-- Gives the object of an identity a new state in every place that holds
it, `fuel` levels of objects deep. -/
def updateObject : Nat → Nat → Value → SessionM Unit
  | 0, _, _ => pure ()
  | fuel + 1, ident, v => do
    let places ← placesOf ident
    let some (n0, p0) := places.head? | return
    let before ← identitiesOf n0
    let inner := before.filterMap fun (p, i) => match pathAfter? p0 p with
      | some r@(_ :: _) => some (r, i)
      | _ => Option.none
    let children := v.objectPaths.filter (!·.isEmpty)
    let kept := children.filterMap fun r => (inner.find? (fun e => samePath r e.1)).map fun (_, i) => (r, i)
    let fresh ← (children.filter fun r => !kept.any (fun e => samePath r e.1)).mapM fun r => do
      pure (r, ← freshIdentity)
    for (n, p) in places do
      modify fun s => placeObject s n p v (kept ++ fresh)
    for (r, i) in kept do
      match v.at? r with
      | some part => updateObject fuel i part
      | Option.none => pure ()

/-- Gives the part of a variable at a path a new state: the object there
changes in place wherever it is held, and a part that is no object is
replaced in the variable alone. -/
def updatePlace (name : String) (path : List PathStep) (v : Value) : SessionM Unit := do
  match (← identitiesOf name).find? (fun e => samePath path e.1) with
  | some (_, i) => updateObject (v.depth + 1) i v
  | Option.none =>
    match (← get).vars.lookup name with
    | some old => if path.isEmpty then bindVar name v [] else bindVar name (old.setAt path v) [([], name)]
    | Option.none => bindVar name v []

end Session

end SqlMapper
