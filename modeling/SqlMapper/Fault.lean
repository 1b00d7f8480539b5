/-!
# Faults

What can go wrong, by cause. A fault names the class of the error it reports
and carries the text that explains it; the few causes whose text is fixed
carry none.
-/

namespace SqlMapper

/-- A failure of an operation. -/
inductive Fault where
  /-- Invalid metadata or query construction. -/
  | configuration (message : String)
  /-- A value cannot be stored in a scan destination. -/
  | mapping (message : String)
  /-- A query expecting one row found none. -/
  | noRows
  /-- A transaction was used after it finished. -/
  | transaction (message : String)
  /-- An argument has the right type but a wrong value. -/
  | badValue (message : String)
  /-- An argument has the wrong type. -/
  | badType (message : String)
  /-- A name that is not there. -/
  | missingKey (key : String)
  /-- A position past the end of a sequence. -/
  | outOfRange (message : String)
  /-- An attribute that an object does not have. -/
  | missingAttribute (message : String)
  /-- Bytes that are not UTF-8. -/
  | undecodable (message : String)
  /-- An operation that a base fragment does not implement. -/
  | unimplemented (message : String)
  /-- An error raised on purpose by a hook. -/
  | raised (message : String)
  /-- A value that does not validate against a field's type. -/
  | invalid
  /-- A type for which no validator can be built. -/
  | unbuildable
  /-- Text that is no decimal number. -/
  | decimalSyntax
  /-- A model that still names a class that does not exist. -/
  | incomplete
  /-- An error reported by the database, with its class. -/
  | database (kind message : String)
  /-- The interpreter's limit on nested calls was reached. -/
  | recursion
  deriving DecidableEq, Repr, Inhabited

namespace Fault

/-- The class name that reports the fault. -/
def kind : Fault → String
  | .configuration _ => "ConfigurationError"
  | .mapping _ => "MappingError"
  | .noRows => "NoRowsError"
  | .transaction _ => "TransactionError"
  | .badValue _ => "ValueError"
  | .badType _ => "TypeError"
  | .missingKey _ => "KeyError"
  | .outOfRange _ => "IndexError"
  | .missingAttribute _ => "AttributeError"
  | .undecodable _ => "UnicodeDecodeError"
  | .unimplemented _ => "NotImplementedError"
  | .raised _ => "RuntimeError"
  | .invalid => "ValidationError"
  | .unbuildable => "PydanticSchemaGenerationError"
  | .decimalSyntax => "InvalidOperation"
  | .incomplete => "PydanticUserError"
  | .database k _ => k
  | .recursion => "RecursionError"

/-- The explanation of the fault; faults of validation and of model building carry none. -/
def message? : Fault → Option String
  | .configuration m | .mapping m | .transaction m | .badValue m | .badType m
  | .missingAttribute m | .undecodable m | .unimplemented m | .raised m | .outOfRange m => some m
  | .database _ m => some m
  | .missingKey k => some k
  | .noRows => some "no rows in result set"
  | .decimalSyntax => some "[<class 'decimal.ConversionSyntax'>]"
  | .recursion => some "maximum recursion depth exceeded"
  | .invalid | .unbuildable | .incomplete => none

end Fault

/-- Three or more items joined by commas, the last after `, and`. -/
def serialJoin : List String → String
  | [] => ""
  | [a] => a
  | [a, b] => a ++ ", and " ++ b
  | a :: rest => a ++ ", " ++ serialJoin rest

/-- Names in quotes joined as in a sentence: `'a'`, `'a' and 'b'`, `'a', 'b', and 'c'`. -/
def quotedNames (names : List String) : String :=
  match names.map fun n => "'" ++ n ++ "'" with
  | [a, b] => a ++ " and " ++ b
  | qs => serialJoin qs

/-- The count of positional arguments as a call error gives it: `1 positional argument`. -/
def positionalCount (n : Nat) : String :=
  toString n ++ (if n == 1 then " positional argument" else " positional arguments")

/-- The fault of calling the method `qual` of an object with `given` arguments
when it takes the `required` ones and up to `optional` more, if the count is wrong. -/
def Fault.arity? (qual : String) (required : List String) (optional given : Nat) : Option Fault :=
  if given < required.length then
    let missing := required.drop given
    some (.badType (qual ++ "() missing " ++ toString missing.length ++ " required positional argument" ++
      (if missing.length == 1 then "" else "s") ++ ": " ++ quotedNames missing))
  else if given > required.length + optional then
    let takes := if optional == 0 then positionalCount (required.length + 1)
      else "from " ++ toString (required.length + 1) ++ " to " ++ positionalCount (required.length + optional + 1)
    some (.badType (qual ++ "() takes " ++ takes ++ " but " ++ toString (given + 1) ++
      (if given + 1 == 1 then " was given" else " were given")))
  else none

end SqlMapper
