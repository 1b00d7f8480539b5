import SqlMapper.Service.Dialects
import SqlMapper.Dialect.Url
import SqlMapper.Rows.Plan

/-!
# Named database registrations

A connection request registers databases by URL under names, looks them up
and forgets them, one step at a time, each step answered as its own item.
Registering reads the dialect from the URL's scheme and opens nothing; a
later registration under a name replaces the earlier one. The name is
`default` when a step gives none.
-/

namespace SqlMapper.Service

open SqlMapper.Json SqlMapper.Text

/-- A registered database: its dialect and whether its connections share data. -/
structure Registration where
  dialect : Dialect
  shared : Bool

/-- The name a step gives, `default` when it gives none. -/
def stepName : List Doc → String
  | .str n :: _ => n
  | _ => "default"

/-- Runs one registration step on the registrations, with its answer item. -/
def connectionStep (reg : List (String × Registration)) (step : Doc) : List (String × Registration) × Doc :=
  match step with
  | .arr (.str "connect" :: .str url :: rest) =>
    let u := DatabaseUrl.parse url
    match dialectOf (.str u.scheme) with
    | .ok d =>
      let r : Registration := ⟨d, d.sharesData u⟩
      (setKey reg (stepName rest) r, itemDoc (.ok (.obj [("dialect", .str d.name), ("shared", .bool r.shared),
        ("repr", .str ("DB(dialect=" ++ displayString d.name ++ ")"))])))
    | .error f => (reg, faultDoc f)
  | .arr (.str "get_db" :: rest) =>
    let name := stepName rest
    match reg.lookup name with
    | some r => (reg, itemDoc (.ok (.obj [("dialect", .str r.dialect.name), ("shared", .bool r.shared)])))
    | none => (reg, faultDoc (.badValue ("No connection configured with name=`" ++ name ++ "`")))
  | .arr (.str "disconnect" :: rest) =>
    let name := stepName rest
    (reg.filter (·.1 != name), itemDoc (.ok .null))
  | .arr (.str other :: _) => (reg, faultDoc (.badValue ("unknown step " ++ displayString other)))
  | other => (reg, faultDoc (.badValue ("unknown step " ++ other.render)))

/-- Answers a connection request: one item per step. -/
def connectRequest (req : Doc) : Except Fault Doc :=
  let (_, items) := (listField req "steps").foldl (fun (reg, items) step =>
    let (reg, item) := connectionStep reg step
    (reg, items ++ [item])) ([], [])
  pure (.arr items)

end SqlMapper.Service
