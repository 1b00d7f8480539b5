import SqlMapper.Service.Request
import SqlMapper.Rows.Map

/-!
# Row mapping requests

A row mapping request gives column names, rows of values and destinations,
and answers what the rows become. A destination is a type (a class or
builtin name, a list or dictionary of types, any type specification), an
instance to fill, or the bare list type.
-/

namespace SqlMapper.Service

open SqlMapper.Json

/-- The type a destination document names: a class or builtin name, or an
object whose first known key, in the order `list_of`, `dict_of`, `type`,
`list`, says which form it is. -/
def destinationTy (cat : Catalog) : Nat → Doc → Except Fault Ty
  | 0, _ => throw (.badValue "destination nested too deeply")
  | fuel + 1, d =>
    match d with
    | .str name => return (← readSpec cat (.str name)).1
    | .obj _ =>
      match d.get? "list_of", d.get? "dict_of", d.get? "type", d.get? "list" with
      | some e, _, _, _ => return .generic .list [← destinationTy cat fuel e]
      | none, some (.arr [k, v]), _, _ =>
        return .generic .dict [← destinationTy cat fuel k, ← destinationTy cat fuel v]
      | none, none, some spec, _ => return (← readSpec cat spec).1
      | none, none, none, some _ => pure (.builtin .list)
      | _, _, _, _ => throw (.badValue ("bad destination " ++ d.plain.display))
    | _ => throw (.badValue ("bad destination " ++ d.plain.display))

/-- The destination value of a document: an instance for `{"value": v}`
without a key that names a type, else a type. -/
def destinationOf (scope : Scope) (d : Doc) : Except Fault Value :=
  match d.get? "list_of", d.get? "dict_of", d.get? "type", d.get? "value" with
  | none, none, none, some v => scope.read v
  | _, _, _, _ => return .type (← destinationTy scope.catalog d.depth d)

/-- Answers a row mapping request. -/
def mapRowsRequest (req : Doc) : Except Fault Doc := do
  let cat ← requestCatalog req
  let scope : Scope := { catalog := cat, vars := [], hasDatabase := false }
  let names ← (listField req "names").mapM fun d => match d with
    | .str s => pure s
    | _ => throw (.badType "column names must be strings")
  let rows ← (listField req "rows").mapM fun r => match r with
    | .arr cells => cells.mapM scope.read
    | _ => throw (.badType "a row must be a list")
  let dests ← (listField req "dest").mapM (destinationOf scope)
  let element ← match req.get? "element_type" with
    | some d => some <$> destinationTy cat d.depth d
    | none => pure none
  -- the instances given are the request's own, so what a failure leaves in them is not seen
  return valueDoc (← (mapRows cat names rows dests element).mapError (·.fault))

end SqlMapper.Service
