/-!
# SQL templates

A template is SQL text with slots. A `?` is a positional slot, filled by the
next argument; `?TableName`, `?TableAlias`, `?PKs` and `?TableColumns`, when no
letter, digit or underscore follows the name, are named slots filled from the
query's bound table; `\?` is a literal question mark. Reading a template gives
its tokens in order: text runs, named slots and positional slots.
-/

namespace SqlMapper.Text

/-- The slots that a query's bound table fills. -/
inductive Slot where
  | tableName
  | tableAlias
  | pks
  | tableColumns
  deriving DecidableEq, Repr

/-- The name of a named slot as it stands after the `?`. -/
def Slot.name : Slot → String
  | .tableName => "TableName"
  | .tableAlias => "TableAlias"
  | .pks => "PKs"
  | .tableColumns => "TableColumns"

/-- Named slots in the order a template reader tries them. -/
def Slot.all : List Slot := [.tableName, .tableAlias, .pks, .tableColumns]

/-- One token of a template. -/
inductive Token where
  | text (s : String)
  | named (slot : Slot)
  | positional
  deriving DecidableEq, Repr

/-- Characters that continue a name, so that a slot name followed by one is no slot. -/
def isNameChar (c : Char) : Bool := c.isAlphanum || c == '_'

/-- The named slot that `cs` (the text after a `?`) starts with, and its length. -/
def namedSlotAt (cs : List Char) : Option (Slot × Nat) :=
  Slot.all.findSome? fun slot =>
    let n := slot.name.toList
    if n.isPrefixOf cs && !((cs.drop n.length).head?.map isNameChar).getD false then
      some (slot, n.length)
    else none

/-- The text token of the pending characters (kept nearest first), if any, before `rest`. -/
def flushText (pending : List Char) (rest : List Token) : List Token :=
  if pending.isEmpty then rest else .text (String.ofList pending.reverse) :: rest

/-- Tokens of `cs`, where `pending` holds text read since the last slot, nearest first. -/
def tokensOf (pending : List Char) : List Char → List Token
  | [] => flushText pending []
  | '\\' :: '?' :: rest => flushText pending (.text "?" :: tokensOf [] rest)
  | '?' :: rest =>
    match h : namedSlotAt rest with
    | some (slot, n) => flushText pending (.named slot :: tokensOf [] (rest.drop n))
    | none => flushText pending (.positional :: tokensOf [] rest)
  | c :: rest => tokensOf (c :: pending) rest
termination_by cs => cs.length
decreasing_by all_goals simp; try omega

/-- Tokens of a template, in order. -/
def tokenize (template : String) : List Token := tokensOf [] template.toList

/-- Number of positional slots of a template. -/
def countPlaceholders (template : String) : Nat :=
  (tokenize template).countP (· == .positional)

end SqlMapper.Text
