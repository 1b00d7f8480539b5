/-!
# Column and relation declarations

The options a field's annotation can carry. A column declaration renames the
column and marks it as key, generated, soft-delete marker, JSON text, embedded
structure, unique or stored as NULL when zero, or gives its SQL type. A
relation declaration fixes the kind of a relation, its join columns, its
junction table, and the order and filter of the rows it loads. Options that
neither knows are kept by name, sorted, and otherwise ignored.
-/

namespace SqlMapper.Schema

/-- The four ways one table links to another. -/
inductive RelationKind where
  | belongsTo
  | hasOne
  | hasMany
  | manyToMany
  deriving DecidableEq, Repr, Inhabited

/-- The name of a relation kind. -/
def RelationKind.name : RelationKind → String
  | .belongsTo => "belongs-to"
  | .hasOne => "has-one"
  | .hasMany => "has-many"
  | .manyToMany => "m2m"

/-- All relation kinds, in the order their names are listed. -/
def RelationKind.all : List RelationKind := [.belongsTo, .hasOne, .hasMany, .manyToMany]

/-- The relation kind of a name. -/
def RelationKind.ofName? (s : String) : Option RelationKind := RelationKind.all.find? (·.name == s)

/-- Whether a relation of this kind links one row to at most one row. -/
def RelationKind.isToOne : RelationKind → Bool
  | .belongsTo | .hasOne => true
  | _ => false

/-- Options of a column declaration. -/
structure ColumnSpec where
  name : Option String := none
  pk : Bool := false
  autoincrement : Bool := false
  softDelete : Bool := false
  json : Bool := false
  embed : Bool := false
  unique : Bool := false
  nullzero : Bool := false
  sqlType : Option String := none
  /-- Unknown options by name, with the display form of their values. -/
  extra : List (String × String) := []
  deriving DecidableEq, Repr, Inhabited

/-- Options of a relation declaration. -/
structure RelationSpec where
  kind : Option RelationKind := none
  /-- Pairs of a local and a foreign column name. -/
  join : List (String × String) := []
  junction : Option String := none
  order : Option String := none
  filter : Option String := none
  extra : List (String × String) := []
  deriving DecidableEq, Repr, Inhabited

end SqlMapper.Schema
