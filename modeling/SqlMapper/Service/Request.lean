import SqlMapper.Service.Decode
import SqlMapper.Service.Encode

/-!
# Requests and answer items

The pieces every request handler shares: reading members of a request,
reading its model definitions into a catalog, and writing an outcome as an
answer item, `{"result": …}` or `{"error": class, "message": text}`, the
message left out for faults that carry none.
-/

namespace SqlMapper.Service

open SqlMapper.Json SqlMapper.Text

/-- The answer document of a fault. -/
def faultDoc (f : Fault) : Doc :=
  match f.message? with
  | some m => .obj [("error", .str f.kind), ("message", .str m)]
  | none => .obj [("error", .str f.kind)]

/-- The answer item of an outcome. -/
def itemDoc : Except Fault Doc → Doc
  | .ok d => .obj [("result", d)]
  | .error f => faultDoc f

/-- The member `key` of a request, or a missing-key fault. -/
def field (req : Doc) (key : String) : Except Fault Doc :=
  match req.get? key with
  | some d => pure d
  | none => throw (.missingKey key)

/-- The string member `key` of a request. -/
def textField (req : Doc) (key : String) : Except Fault String := do
  match ← field req key with
  | .str s => pure s
  | _ => throw (.badType (key ++ " must be a string"))

/-- The member `key` of a request as a plain value. -/
def valueField (req : Doc) (key : String) : Except Fault Value := do
  pure (← field req key).plain

/-- The text a value looks up in a table keyed by text: a missing-key fault
names the value as text, and a list, set or dictionary cannot be a key. -/
def lookupText : Value → Except Fault String
  | .str s => pure s
  | v@(.list _) | v@(.set _) | v@(.dict _) => throw (.badType ("unhashable type: " ++ displayString v.typeName))
  | v => throw (.missingKey v.text)

/-- The catalog of the model definitions of a request. -/
def requestCatalog (req : Doc) : Except Fault Catalog :=
  match req.get? "models" with
  | some (.arr defs) => readModels defs
  | _ => pure Catalog.empty

/-- The items of an array member of a request, none when it is absent. -/
def listField (req : Doc) (key : String) : List Doc :=
  match req.get? key with
  | some (.arr items) => items
  | _ => []

end SqlMapper.Service
