import SqlMapper.Database.Parse.Query

/-!
# Reading statements

A statement is a select, an insert, an update or a delete (each perhaps after
a `WITH` clause); a definition of a table, index, view or trigger; a drop; an
`ALTER TABLE`; a pragma; or a statement of transaction control.

A definition keeps the text the schema records for it: `CREATE TABLE` and the
text from the table's name to its closing parenthesis (to the end of the
statement when table options follow), `CREATE VIEW` and the text from the
view's name to the end of the statement, `CREATE [UNIQUE] INDEX` likewise,
and `CREATE TRIGGER` and the text from the trigger's name to its `END`.

A text holds at most one statement. Semicolons before it are skipped; after
it and its semicolon, only blanks and comments may follow. Text with no
statement at all runs as nothing.
-/

namespace SqlMapper.Database

namespace Parse

/-- The text between a place and the end of the statement: the next `;` or the end of the text. -/
def textToEnd (start : Nat) : ParseM String := do
  let s ← get
  let stop := match s.rest with
    | l :: _ => if l.token == .symbol ";" then l.start else s.source.length
    | [] => s.source.length
  textBetween start stop

/-- Reads the action of a foreign key on a change to the row it refers to. -/
def foreignAction : ParseM ForeignAction := do
  if ← keyword? "SET" then
    if ← keyword? "NULL" then pure .setNull else do expectKeyword "DEFAULT"; pure .setDefault
  else if ← keyword? "CASCADE" then pure .cascade
  else if ← keyword? "RESTRICT" then pure .restrict
  else do expectKeywords ["NO", "ACTION"]; pure .noAction

/-- Reads the clauses of a foreign key after the table and columns it refers to. -/
def referenceClauses (r : References) : ParseM References := do
  let mut r := r
  for _ in [0:64] do
    if ← keyword? "MATCH" then discard name
    else if ← keyword? "ON" then
      if ← keyword? "DELETE" then r := { r with onDelete := ← foreignAction }
      else if ← keyword? "UPDATE" then r := { r with onUpdate := ← foreignAction }
      else do expectKeyword "INSERT"; discard foreignAction
    else break
  pure r

/-- Reads an optional `[NOT] DEFERRABLE [INITIALLY DEFERRED|IMMEDIATE]`: whether
it defers the check. -/
def deferClause? : ParseM (Option Bool) := do
  let negated ← if (← atKeyword "NOT") && (← secondIsKeyword "DEFERRABLE") then do advance; pure true
    else pure false
  if !(← keyword? "DEFERRABLE") then return none
  let deferred ← if ← keyword? "INITIALLY" then do
      if ← keyword? "DEFERRED" then pure true else do expectKeyword "IMMEDIATE"; pure false
    else pure false
  pure (some (!negated && deferred))

/-- Reads what a foreign key refers to, after `REFERENCES`. -/
def references : ParseM References := do
  let t ← name
  let cols ← if ← atSymbol "(" then nameList else pure []
  let r ← referenceClauses { table := t, columns := cols }
  match ← deferClause? with
  | some d => pure { r with deferred := d }
  | none => pure r

/-- A declared type without a trailing `GENERATED ALWAYS`, which belongs to a
generated column's clause. -/
def stripGenerated (t : String) : String :=
  let cs := t.toList
  let lower := cs.map Char.toLower
  if cs.length ≥ 16 && lower.drop (cs.length - 6) == "always".toList then
    let cs := (cs.take (cs.length - 6)).reverse.dropWhile isTrimmed |>.reverse
    let lower := cs.map Char.toLower
    if cs.length ≥ 9 && lower.drop (cs.length - 9) == "generated".toList then
      String.ofList ((cs.take (cs.length - 9)).reverse.dropWhile isTrimmed).reverse
    else String.ofList cs
  else t

/-- Whether the next token starts a table constraint. -/
def atTableConstraint : ParseM Bool := do
  return (← atKeyword "CONSTRAINT") || (← atKeyword "PRIMARY") || (← atKeyword "UNIQUE") ||
    (← atKeyword "CHECK") || (← atKeyword "FOREIGN")

/-- The term of an index or key written as an ordering term. -/
def indexedTerm (t : OrderTerm) : IndexedTerm :=
  match t with
  | .mk (.collate e c) desc _ => { e, collation := some c, descending := desc }
  | .mk e desc _ => { e, descending := desc }

/-- Reads a check's condition in parentheses: the condition and its text. -/
def checkCondition (fuel : Nat) : ParseM (Expr × String) := do
  expectSymbol "("
  let start ← position
  let e ← expr fuel
  let stop ← position
  expectSymbol ")"
  pure (e, trimSpan (← textBetween start stop))

/-- Reads a column's default value: the expression and its text. -/
def defaultValue (fuel : Nat) : ParseM (Expr × String) := do
  let start ← position
  if ← symbol? "(" then
    let inner ← position
    let e ← expr fuel
    let stop ← position
    expectSymbol ")"
    return (e, trimSpan (← textBetween inner stop))
  let sign ← if ← symbol? "-" then pure (some true) else if ← symbol? "+" then pure (some false) else pure none
  let e ← match ← peek with
    | some (.integer t) | some (.real t) => advance; pure (Expr.number t)
    | some (.string s) => advance; pure (.literal (.ofString s))
    | some (.blob bs) => advance; pure (.literal (.blob bs))
    | some (.word w) =>
      if isKeywordWord w "NULL" then do advance; pure (.literal .null)
      else if ["CURRENT_TIME", "CURRENT_DATE", "CURRENT_TIMESTAMP"].contains (keywordOf w) then do
        advance
        pure (.call (upperWord w) false [] none none)
      else if sign.isNone && !isReservedWord w && !isJoinWord w then do
        advance
        let u := upperWord w
        if keywordShaped w && u == "TRUE" then pure (.literal (.integer 1))
        else if keywordShaped w && u == "FALSE" then pure (.literal (.integer 0))
        else pure (.literal (.ofString w))
      else syntaxError
    | some (.quoted q _) =>
      if sign.isNone then do advance; pure (.literal (.ofString q)) else syntaxError
    | _ => syntaxError
  let e := if sign == some true then .unary .neg e else e
  pure (e, trimSpan (← textBetween start (← lastStop)))

/-- Reads the constraints of a column definition, each with the name given to it. -/
def columnConstraints : Nat → Option String → ParseM (List (Option String × ColumnConstraint))
  | 0, _ => pure []
  | fuel + 1, pending => do
    if ← keyword? "CONSTRAINT" then return ← columnConstraints fuel (some (← name))
    let c? : Option ColumnConstraint ← do
      if ← keyword? "PRIMARY" then
        expectKeyword "KEY"
        let desc ← if ← keyword? "DESC" then pure true else do discard (keyword? "ASC"); pure false
        let conflict ← conflictClause
        let auto ← keyword? "AUTOINCREMENT"
        pure (some (.primaryKey desc conflict auto))
      else if (← atKeyword "NOT") && (← secondIsKeyword "NULL") then
        advance
        advance
        pure (some (.notNull (← conflictClause)))
      else if ← keyword? "NULL" then
        discard conflictClause
        pure none
      else if ← keyword? "UNIQUE" then pure (some (.unique (← conflictClause)))
      else if ← keyword? "CHECK" then
        let (e, text) ← checkCondition fuel
        pure (some (.check e text))
      else if ← keyword? "DEFAULT" then
        let (e, text) ← defaultValue fuel
        pure (some (.default e text))
      else if ← keyword? "COLLATE" then
        match ← peek with
        | some (.string s) => advance; pure (some (.collate s))
        | some t =>
          match t.identifier? with
          | some n => advance; pure (some (.collate n))
          | none => syntaxError
        | none => syntaxError
      else if ← keyword? "REFERENCES" then pure (some (.references (← references)))
      else if (← atKeyword "DEFERRABLE") || ((← atKeyword "NOT") && (← secondIsKeyword "DEFERRABLE")) then
        discard deferClause?
        pure none
      else if (← atKeyword "GENERATED") || (← atKeyword "AS") then
        if ← keyword? "GENERATED" then expectKeyword "ALWAYS"
        expectKeyword "AS"
        expectSymbol "("
        let e ← expr fuel
        expectSymbol ")"
        let stored ← if ← keyword? "STORED" then pure true else do discard (keyword? "VIRTUAL"); pure false
        pure (some (.generated e stored))
      else return []
    match c? with
    | some c => return (pending, c) :: (← columnConstraints fuel none)
    | none => columnConstraints fuel none

/-- Reads a column definition: its name, its declared type and its constraints. -/
def columnDef (fuel : Nat) : ParseM ColumnDecl := do
  let n ← name
  let t ← typeName
  let cs ← columnConstraints fuel none
  pure { name := n, type := stripGenerated t, constraints := cs }

/-- Reads a table constraint with the name given to it. -/
def tableConstraint (fuel : Nat) : ParseM (Option String × TableConstraint) := do
  let constraintName ← if ← keyword? "CONSTRAINT" then some <$> name else pure none
  if ← keyword? "PRIMARY" then
    expectKeyword "KEY"
    expectSymbol "("
    let terms ← orderTerms fuel
    let auto ← keyword? "AUTOINCREMENT"
    expectSymbol ")"
    return (constraintName, .primaryKey (terms.map indexedTerm) (← conflictClause) auto)
  if ← keyword? "UNIQUE" then
    expectSymbol "("
    let terms ← orderTerms fuel
    expectSymbol ")"
    return (constraintName, .unique (terms.map indexedTerm) (← conflictClause))
  if ← keyword? "CHECK" then
    let (e, text) ← checkCondition fuel
    discard conflictClause
    return (constraintName, .check e text)
  expectKeywords ["FOREIGN", "KEY"]
  let cols ← nameList
  expectKeyword "REFERENCES"
  return (constraintName, .foreignKey cols (← references))

/-- Reads the constraints of a table, after its columns. -/
def tableConstraints : Nat → ParseM (List (Option String × TableConstraint))
  | 0 => pure []
  | fuel + 1 => do
    let c ← tableConstraint fuel
    discard (symbol? ",")
    if ← atTableConstraint then return c :: (← tableConstraints fuel) else pure [c]

/-- Reads the columns of a table definition, and its constraints after them. -/
def tableColumns : Nat → ParseM (List ColumnDecl × List (Option String × TableConstraint))
  | 0 => pure ([], [])
  | fuel + 1 => do
    let c ← columnDef fuel
    if ← symbol? "," then
      if ← atTableConstraint then return ([c], ← tableConstraints fuel)
      let (cols, cons) ← tableColumns fuel
      return (c :: cols, cons)
    pure ([c], [])

/-- Reads the options after a table definition: whether it has no row numbers and whether it is strict. -/
def tableOptions : ParseM (Bool × Bool) := do
  let mut withoutRowid := false
  let mut strict := false
  for i in [0:64] do
    if i > 0 && !(← symbol? ",") then break
    let s ← get
    let written := (s.rest.head?.map (·.text s.source)).getD ""
    if ← keyword? "WITHOUT" then
      let s ← get
      let written := (s.rest.head?.map (·.text s.source)).getD ""
      let n ← name
      if upperWord n != "ROWID" then throw (operational ("unknown table option: " ++ written))
      withoutRowid := true
    else
      match ← name? with
      | some n =>
        if upperWord n != "STRICT" then throw (operational ("unknown table option: " ++ written))
        strict := true
      | none => if i == 0 then break else syntaxError
  pure (withoutRowid, strict)

/-- Reads `IF NOT EXISTS` if it comes. -/
def ifNotExists : ParseM Bool := do
  if ← keyword? "IF" then do expectKeywords ["NOT", "EXISTS"]; pure true else pure false

/-- Reads `IF EXISTS` if it comes. -/
def ifExists : ParseM Bool := do
  if ← keyword? "IF" then do expectKeyword "EXISTS"; pure true else pure false

/-- Reads the assignments of an update or an upsert. -/
def assignments : Nat → ParseM Assignments
  | 0 => syntaxError
  | fuel + 1 => do
    let cols ← if ← atSymbol "(" then nameList else pure [← name]
    expectSymbol "="
    let e ← expr fuel
    if ← symbol? "," then return (cols, e) :: (← assignments fuel) else pure [(cols, e)]

/-- Reads an optional `RETURNING` clause. -/
def returning (fuel : Nat) : ParseM (List ResultColumn) := do
  if ← keyword? "RETURNING" then resultColumns fuel else pure []

/-- Reads the conflict clauses of an insert. -/
def upserts : Nat → ParseM (List Upsert)
  | 0 => pure []
  | fuel + 1 => do
    if (← atKeyword "ON") && (← secondIsKeyword "CONFLICT") then
      advance
      advance
      let target ← if ← symbol? "(" then do
          let ts ← orderTerms fuel
          expectSymbol ")"
          pure (some (ts.map indexedTerm))
        else pure none
      let targetFilter ← if target.isSome && (← keyword? "WHERE") then some <$> expr fuel else pure none
      expectKeyword "DO"
      let action ← if ← keyword? "NOTHING" then pure UpsertAction.nothing
        else do
          expectKeywords ["UPDATE", "SET"]
          let sets ← assignments fuel
          let filter ← if ← keyword? "WHERE" then some <$> expr fuel else pure none
          pure (.update sets filter)
      let u : Upsert := { target, targetFilter, action }
      if target.isNone then return [u]
      return u :: (← upserts fuel)
    else pure []

/-- Reads the table an insert, update or delete writes: its name and alias. -/
def writtenTable : ParseM (String × Option String) := do
  let (_, t) ← qualifiedName
  let a ← if ← keyword? "AS" then some <$> name else pure none
  pure (t, a)

/-- Reads an optional `INDEXED BY name` or `NOT INDEXED`. -/
def indexedBy : ParseM Unit := do
  if ← keyword? "INDEXED" then
    expectKeyword "BY"
    discard name
  else if (← atKeyword "NOT") && (← secondIsKeyword "INDEXED") then
    advance
    advance

/-- Reads an insert, update or delete after its `WITH` clause. -/
def writeStatement (fuel : Nat) (recursive : Bool) (cs : List Cte) : ParseM Statement := do
  if (← atKeyword "INSERT") || (← atKeyword "REPLACE") then
    let onError ← if ← keyword? "REPLACE" then pure OnError.replace
      else do
        advance
        if ← keyword? "OR" then onErrorAction else pure .abort
    expectKeyword "INTO"
    let (t, a) ← writtenTable
    let columns ← if ← atSymbol "(" then some <$> nameList else pure none
    if ← keyword? "DEFAULT" then
      expectKeyword "VALUES"
      return .insert recursive cs t a onError columns .defaults [] (← returning fuel)
    let q ← select fuel
    let src := match q with
      | .mk false [] (.values rows) [] [] none none => InsertSource.values rows
      | q => .select q
    let ups ← upserts fuel
    return .insert recursive cs t a onError columns src ups (← returning fuel)
  if ← keyword? "UPDATE" then
    let onError ← if ← keyword? "OR" then onErrorAction else pure .abort
    let (t, a) ← writtenTable
    indexedBy
    expectKeyword "SET"
    let sets ← assignments fuel
    let sources ← if ← keyword? "FROM" then fromList fuel else pure []
    let filter ← if ← keyword? "WHERE" then some <$> expr fuel else pure none
    return .update recursive cs t a onError sets sources filter (← returning fuel)
  if ← keyword? "DELETE" then
    expectKeyword "FROM"
    let (t, a) ← writtenTable
    indexedBy
    let filter ← if ← keyword? "WHERE" then some <$> expr fuel else pure none
    return .delete recursive cs t a filter (← returning fuel)
  syntaxError

/-- Reads the statements of a trigger's body, each ended by `;`, up to `END`. -/
def triggerBody : Nat → ParseM (List Statement)
  | 0 => syntaxError
  | fuel + 1 => do
    let st ← if (← atKeyword "SELECT") || (← atKeyword "VALUES") || (← atKeyword "WITH") then
        Statement.select <$> select fuel
      else writeStatement fuel false []
    expectSymbol ";"
    if ← atKeyword "END" then return [st]
    return st :: (← triggerBody fuel)

/-- The text of the next token as written. -/
def nextText : ParseM String := do
  let s ← get
  return (s.rest.head?.map (·.text s.source)).getD ""

/-- Reads a name that may be qualified by a schema: the name, where it starts
in the text, and how it is written. -/
def placedName : ParseM (String × Nat × String) := do
  let p1 ← position
  let w1 ← nextText
  let first ← name
  if ← symbol? "." then
    let p2 ← position
    let w2 ← nextText
    return (← name, p2, w2)
  pure (first, p1, w1)

/-- Reads a definition after `CREATE`. -/
def createStatement (fuel : Nat) : ParseM Statement := do
  let temp ← if ← keyword? "TEMP" then pure true else keyword? "TEMPORARY"
  let unique ← if temp then pure false else keyword? "UNIQUE"
  if ← keyword? "INDEX" then
    let ine ← ifNotExists
    let (n, nameStart, _) ← placedName
    expectKeyword "ON"
    let t ← name
    expectSymbol "("
    let terms ← orderTerms fuel
    expectSymbol ")"
    let filter ← if ← keyword? "WHERE" then some <$> expr fuel else pure none
    let sql := "CREATE" ++ (if unique then " UNIQUE" else "") ++ " INDEX " ++ (← textToEnd nameStart)
    return .createIndex n t (terms.map indexedTerm) filter unique ine sql
  if unique then syntaxError
  if ← keyword? "TABLE" then
    let ine ← ifNotExists
    let (n, nameStart, written) ← placedName
    if ← keyword? "AS" then
      return .createTable n written ine temp (.asSelect (← select fuel)) ""
    expectSymbol "("
    let (cols, cons) ← tableColumns fuel
    expectSymbol ")"
    let close ← lastStop
    let (withoutRowid, strict) ← tableOptions
    let stop ← if withoutRowid || strict then do
        let s ← get
        pure (match s.rest with
          | l :: _ => if l.token == .symbol ";" then l.start else s.source.length
          | [] => s.source.length)
      else pure close
    let sql := "CREATE TABLE " ++ (← textBetween nameStart stop)
    return .createTable n written ine temp (.columns cols cons withoutRowid strict) sql
  if ← keyword? "VIEW" then
    let ine ← ifNotExists
    let (n, nameStart, written) ← placedName
    let cols ← if ← atSymbol "(" then nameList else pure []
    expectKeyword "AS"
    let q ← select fuel
    let text := (← textToEnd nameStart).toList.reverse.dropWhile isTrimmed |>.reverse
    return .createView n written cols q ine temp ("CREATE VIEW " ++ String.ofList text)
  if ← keyword? "TRIGGER" then
    let ine ← ifNotExists
    let (n, nameStart, written) ← placedName
    let time ← if ← keyword? "BEFORE" then pure TriggerTime.before
      else if ← keyword? "AFTER" then pure .after
      else if ← keyword? "INSTEAD" then do expectKeyword "OF"; pure .insteadOf
      else pure .before
    let event ← if ← keyword? "DELETE" then pure TriggerEvent.delete
      else if ← keyword? "INSERT" then pure .insert
      else do
        expectKeyword "UPDATE"
        if ← keyword? "OF" then
          let mut cols := [← name]
          for _ in [0:4096] do
            if !(← symbol? ",") then break
            cols := cols ++ [← name]
          pure (.update cols)
        else pure (.update [])
    expectKeyword "ON"
    let (_, t) ← qualifiedName
    if ← keyword? "FOR" then expectKeywords ["EACH", "ROW"]
    let condition ← if ← keyword? "WHEN" then some <$> expr fuel else pure none
    expectKeyword "BEGIN"
    let body ← triggerBody fuel
    expectKeyword "END"
    let sql := "CREATE TRIGGER " ++ (← textBetween nameStart (← lastStop))
    return .createTrigger n written time event t condition body ine temp sql
  syntaxError

/-- Reads the value given to a pragma: a number with an optional sign, a name or a word. -/
def pragmaValue : ParseM Expr := do
  let negative ← symbol? "-"
  if !negative then discard (symbol? "+")
  match ← peek with
  | some (.integer t) | some (.real t) =>
    advance
    pure (if negative then .unary .neg (.number t) else .number t)
  | some (.word w) =>
    if negative then syntaxError
    else if isKeywordWord w "ON" || isKeywordWord w "DELETE" || isKeywordWord w "DEFAULT" || !isReservedWord w then
      advance
      pure (.literal (.ofString w))
    else syntaxError
  | some (.quoted q _) | some (.string q) =>
    if negative then syntaxError else do advance; pure (.literal (.ofString q))
  | _ => syntaxError

/-- Reads an optional `TRANSACTION` with an optional name. -/
def transactionWord : ParseM Unit := do
  if ← keyword? "TRANSACTION" then discard name?

/-- Reads a statement. -/
def statement (fuel : Nat) : ParseM Statement := do
  if ← atKeyword "WITH" then
    let s ← get
    let (recursive, cs) ← withClause fuel
    if (← atKeyword "SELECT") || (← atKeyword "VALUES") then
      set s
      return .select (← select fuel)
    return ← writeStatement fuel recursive cs
  if (← atKeyword "SELECT") || (← atKeyword "VALUES") then return .select (← select fuel)
  if (← atKeyword "INSERT") || (← atKeyword "REPLACE") || (← atKeyword "UPDATE") || (← atKeyword "DELETE") then
    return ← writeStatement fuel false []
  if ← keyword? "CREATE" then return ← createStatement fuel
  if ← keyword? "DROP" then
    let kind ← if ← keyword? "TABLE" then pure ObjectKind.table
      else if ← keyword? "INDEX" then pure .index
      else if ← keyword? "VIEW" then pure .view
      else do expectKeyword "TRIGGER"; pure .trigger
    let ie ← ifExists
    let (_, n) ← qualifiedName
    return .drop kind n ie
  if ← keyword? "ALTER" then
    expectKeyword "TABLE"
    let (_, t) ← qualifiedName
    if ← keyword? "RENAME" then
      if ← keyword? "TO" then return .renameTable t (← name)
      discard (keyword? "COLUMN")
      let old ← name
      expectKeyword "TO"
      return .renameColumn t old (← name)
    if ← keyword? "ADD" then
      discard (keyword? "COLUMN")
      let start ← position
      let c ← columnDef fuel
      let text := (← textToEnd start).toList.reverse.dropWhile (fun ch => isTrimmed ch || ch == ';') |>.reverse
      return .addColumn t c (String.ofList text)
    expectKeyword "DROP"
    discard (keyword? "COLUMN")
    return .dropColumn t (← name)
  if ← keyword? "BEGIN" then
    if !(← keyword? "DEFERRED") then
      if !(← keyword? "IMMEDIATE") then discard (keyword? "EXCLUSIVE")
    transactionWord
    return .begin
  if (← keyword? "COMMIT") || (← keyword? "END") then
    transactionWord
    return .commit
  if ← keyword? "ROLLBACK" then
    transactionWord
    if ← keyword? "TO" then
      discard (keyword? "SAVEPOINT")
      return .rollback (some (← name))
    return .rollback none
  if ← keyword? "SAVEPOINT" then return .savepoint (← name)
  if ← keyword? "RELEASE" then
    discard (keyword? "SAVEPOINT")
    return .release (← name)
  if ← keyword? "PRAGMA" then
    let (_, n) ← qualifiedName
    if ← symbol? "=" then return .pragma n (some (.assign (← pragmaValue)))
    if ← symbol? "(" then
      let v ← pragmaValue
      expectSymbol ")"
      return .pragma n (some (.call v))
    return .pragma n none
  if (← keyword? "VACUUM") || (← keyword? "ANALYZE") || (← keyword? "REINDEX") then
    if (← peek).any (·.isName) then
      discard qualifiedName
    return .noOp
  syntaxError

end Parse

/-- The fault of text holding more than one statement. -/
def oneStatementOnly : Fault := .database "ProgrammingError" "You can only execute one statement at a time."

/-- The fault of text holding a NUL character. -/
def nulInQuery : Fault := .database "ProgrammingError" "the query contains a null character"

/-- The text after a block comment's end; none when it does not end. -/
def blockCommentEnd : List Char → Option (List Char)
  | '*' :: '/' :: after => some after
  | _ :: more => blockCommentEnd more
  | [] => none

/-- Text after a statement, with blanks and comments skipped: none when
nothing else is left. -/
def afterBlanks (cs : List Char) : Option (List Char) := go (cs.length + 1) cs
where
  go : Nat → List Char → Option (List Char)
    | 0, _ => none
    | fuel + 1, cs =>
      match cs with
      | [] => none
      | c :: rest =>
        if c == ' ' || c == '\t' || c == '\x0c' || c == '\n' || c == '\r' then go fuel rest
        else match c, rest with
          | '-', '-' :: more =>
            match more.dropWhile (· != '\n') with
            | [] => none
            | _ :: after => go fuel after
          | '/', '*' :: more =>
            match blockCommentEnd more with
            | some after => go fuel after
            | none => none
          | _, _ => some (c :: rest)

/-- Reads the statement of a text. -/
def prepare (text : String) : Except Fault Prepared := do
  if text.toList.contains (Char.ofNat 0) then throw nulInQuery
  let lexemes := tokenize text
  let lexemes := lexemes.dropWhile (·.token == .symbol ";")
  if lexemes.isEmpty then return { statement := .empty, params := 0, depth := 0 }
  let fuel := 24 * lexemes.length + 64
  let (st, s) ← (Parse.statement fuel).run { rest := lexemes, source := text.toList }
  let after ← (do
      match ← Parse.peek with
      | none => pure none
      | some (.symbol ";") =>
        let s ← get
        pure (some ((s.rest.head?.map (·.stop)).getD s.source.length))
      | some _ => Parse.syntaxError : ParseM (Option Nat)).run' s
  if let some stop := after then
    if (afterBlanks (text.toList.drop stop)).isSome then throw oneStatementOnly
  pure { statement := st, params := s.slots, depth := fuel }

end SqlMapper.Database
