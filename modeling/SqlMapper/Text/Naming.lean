import SqlMapper.Text.Case

/-!
# Names of tables, aliases and columns

Entity names become SQL names by two rules. `snakeCase` puts an underscore at
every word start of a camel-case name and lowercases the result; `pluralize`
forms a naive English plural. A word starts at an ASCII capital that follows an
ASCII lowercase letter or digit, and at the last capital of a run of capitals
that a lowercase letter follows (`HTTPServer` is `http_server`).
-/

namespace SqlMapper.Text

/-- The letters of `cs` with an underscore before every camel-case word start: after a lower
case letter or a digit followed by a capital, and after the last of several capitals that a
lower case letter follows. -/
def markWords : List Char → List Char
  | [] => []
  | a :: tl =>
    let boundary := match tl with
      | b :: rest =>
        ((a.isLower || a.isDigit) && b.isUpper) ||
          (a.isUpper && b.isUpper && (match rest with
            | c :: _ => c.isLower
            | [] => false))
      | [] => false
    if boundary then a :: '_' :: markWords tl else a :: markWords tl

/-- Snake-case form of a camel-case name: `BookAuthor` is `book_author`. -/
def snakeCase (name : String) : String := lower (String.ofList (markWords name.toList))

/-- Naive English plural: a final `y` after a consonant becomes `ies`, a final
`s`, `x`, `z`, `ch` or `sh` takes `es`, anything else takes `s`. -/
def pluralize (word : String) : String :=
  let cs := word.toList
  match cs.reverse with
  | 'y' :: prev :: _ =>
    if "aeiou".toList.contains prev then word ++ "s"
    else String.ofList (cs.dropLast ++ "ies".toList)
  | 's' :: _ | 'x' :: _ | 'z' :: _ | 'h' :: 'c' :: _ | 'h' :: 's' :: _ => word ++ "es"
  | _ => word ++ "s"

end SqlMapper.Text
