import SqlMapper.Database.Parse.Depth

/-!
# Reading expressions and selects

Operators bind in the database's order, loosest first: `OR`; `AND`; `NOT`;
the equality level (`=`, `==`, `<>`, `!=`, `IS`, `IN`, `LIKE`, `GLOB`,
`REGEXP`, `MATCH`, `BETWEEN`, `ISNULL`, `NOTNULL`, `NOT NULL`); the
comparisons; the bit operators; `+` and `-`; `*`, `/` and `%`; `||`, `->` and
`->>`; `COLLATE`; and the signs and `~` of one operand. Operators of one level
group to the left. A `NOT` met where an operand is due reads an operand at
its own level.

`x IN ()` is a constant, false or (negated) true whatever `x` is, and
`x IN (y)` with one constant `y` is the comparison `x == +y`.

A select is an optional `WITH` clause and one or more selects joined by
compound operators; the ordering and paging are written after the last one,
and only a `SELECT`, not a `VALUES` list, may carry them. Written after an
earlier one they are refused when the whole select has been read.

A result column without an alias is named by its text: from its first token
to the token after it, comments between included, blanks trimmed.

Every reader takes fuel that each nested call spends; the fuel given is
larger than the number of tokens times the depth of the operator levels, so
it never runs out before the tokens do.
-/

namespace SqlMapper.Database

/-- Whether an expression is constant as written: literals, parameters and
operators over them, with no name, call or sub-query. -/
def Expr.isConstant : Nat → Expr → Bool
  | 0, _ => false
  | fuel + 1, e =>
    match e with
    | .literal _ | .number _ | .param _ => true
    | .unary _ a | .isNull a _ | .cast a _ | .collate a _ => Expr.isConstant fuel a
    | .binary _ a b => Expr.isConstant fuel a && Expr.isConstant fuel b
    | .between a lo hi _ => Expr.isConstant fuel a && Expr.isConstant fuel lo && Expr.isConstant fuel hi
    | .inList a items _ => Expr.isConstant fuel a && items.all (Expr.isConstant fuel)
    | .choice op branches other =>
      (op.map (Expr.isConstant fuel)).getD true &&
        branches.all (fun (w, t) => Expr.isConstant fuel w && Expr.isConstant fuel t) &&
        (other.map (Expr.isConstant fuel)).getD true
    | .row items => items.all (Expr.isConstant fuel)
    | _ => false

namespace Parse

/-- Whether the next token starts a select: `SELECT`, `VALUES` or `WITH`. -/
def atSelect : ParseM Bool := do
  return (← atKeyword "SELECT") || (← atKeyword "VALUES") || (← atKeyword "WITH")

/-- The keyword a word is, uppercase, or empty when it cannot be one. -/
def keywordOf (w : String) : String := if keywordShaped w then upperWord w else ""

/-- Whether the next tokens open a window clause: `WINDOW`, a name and `AS`. -/
def atWindowClause : ParseM Bool := do
  if !(← atKeyword "WINDOW") then return false
  match ← peekSecond, ← peekThird with
  | some t, some u => pure (t.isName && u.isKeyword "AS")
  | _, _ => pure false

/-- Reads an alias if one comes: `AS` and a name, or an identifier or a
string alone; `INDEXED` and the start of a window clause are no alias. -/
def aliasHere : ParseM (Option String) := do
  if ← keyword? "AS" then return some (← name)
  if (← atKeyword "INDEXED") || (← atWindowClause) then return none
  match ← peek with
  | some (.string s) => advance; pure (some s)
  | some t =>
    match t.identifier? with
    | some n => advance; pure (some n)
    | none => pure none
  | none => pure none

/-- The operator of the comparison level a token stands for. -/
def comparisonOp? : Option Token → Option BinaryOp
  | some (.symbol "<") => some .lt
  | some (.symbol "<=") => some .le
  | some (.symbol ">") => some .gt
  | some (.symbol ">=") => some .ge
  | _ => none

/-- The operator of the bit level a token stands for. -/
def bitOp? : Option Token → Option BinaryOp
  | some (.symbol "&") => some .bitAnd
  | some (.symbol "|") => some .bitOr
  | some (.symbol "<<") => some .shiftLeft
  | some (.symbol ">>") => some .shiftRight
  | _ => none

/-- The operator of the sum level a token stands for. -/
def addOp? : Option Token → Option BinaryOp
  | some (.symbol "+") => some .add
  | some (.symbol "-") => some .sub
  | _ => none

/-- The operator of the product level a token stands for. -/
def mulOp? : Option Token → Option BinaryOp
  | some (.symbol "*") => some .mul
  | some (.symbol "/") => some .div
  | some (.symbol "%") => some .rem
  | _ => none

/-- The operator of the concatenation level a token stands for. -/
def concatOp? : Option Token → Option BinaryOp
  | some (.symbol "||") => some .concat
  | some (.symbol "->") => some .extract
  | some (.symbol "->>") => some .extractValue
  | _ => none

/-- The pattern operator a word stands for. -/
def matchOp? (w : String) : Option MatchOp :=
  match keywordOf w with
  | "LIKE" => some .like
  | "GLOB" => some .glob
  | "REGEXP" => some .regexp
  | "MATCH" => some .fullText
  | _ => none

/-- The join kind that join words name, with whether it is natural; the
words in the fault as written when they name none. -/
def joinKind (words : List String) (written : List String) : Except Fault (JoinKind × Bool) := do
  let codes := words.map fun w => match upperWord w with
    | "NATURAL" => some (true, false, false, false, false, false)
    | "LEFT" => some (false, true, false, true, false, false)
    | "OUTER" => some (false, false, false, true, false, false)
    | "RIGHT" => some (false, false, true, true, false, false)
    | "FULL" => some (false, true, true, true, false, false)
    | "INNER" => some (false, false, false, false, true, false)
    | "CROSS" => some (false, false, false, false, true, true)
    | _ => none
  let bad := operational ("unknown join type: " ++ " ".intercalate written)
  if codes.any Option.isNone then throw bad
  let flags := codes.filterMap id
  let natural := flags.any (·.1)
  let left := flags.any (·.2.1)
  let right := flags.any (·.2.2.1)
  let outer := flags.any (·.2.2.2.1)
  let inner := flags.any (·.2.2.2.2.1)
  let cross := flags.any (·.2.2.2.2.2)
  if (inner && outer) || (outer && !left && !right) then throw bad
  let kind := if left && right then JoinKind.full else if left then .left else if right then .right
    else if cross then .cross else .inner
  pure (kind, natural)

/-- Fails with a fault of the statement text. -/
def fail {α : Type} (x : Except Fault α) : ParseM α :=
  match x with
  | .ok a => pure a
  | .error f => throw f

/-- The ordering and paging written after one select of a compound. -/
structure SelectTail where
  orders : List OrderTerm := []
  limit : Option Expr := none
  offset : Option Expr := none

/-- Whether a select's tail carries anything. -/
def SelectTail.isEmpty (t : SelectTail) : Bool := t.orders.isEmpty && t.limit.isNone

/-- Reads the rest of a qualified name after its first part: `.name` or `.name.name`. -/
def qualifiedRest (first : String) : ParseM Expr := do
  expectSymbol "."
  let second ← name
  if ← symbol? "." then return .column (some first) (some second) (← name)
  pure (.column none (some first) second)

/-- Reads a join operator if one comes: a comma, `JOIN`, or join words and `JOIN`. -/
def joinOp? : ParseM (Option (JoinKind × Bool)) := do
  if ← symbol? "," then return some (.inner, false)
  if ← keyword? "JOIN" then return some (.inner, false)
  match ← peek with
  | some (.word w) =>
    if !isJoinWord w then return none
    advance
    let mut words := [w]
    for _ in [0:2] do
      if ← atKeyword "JOIN" then break
      match ← peek with
      | some t =>
        match t.name? with
        | some n => advance; words := words ++ [n]
        | none => syntaxError
      | none => syntaxError
    expectKeyword "JOIN"
    return some (← fail (joinKind words words))
  | _ => pure none

mutual

/-- Reads an expression. -/
def expr : Nat → ParseM Expr
  | 0 => syntaxError
  | fuel + 1 => do orRest fuel (← andLevel fuel)

/-- Further operands of `OR`. -/
def orRest : Nat → Expr → ParseM Expr
  | 0, lhs => pure lhs
  | fuel + 1, lhs => do
    if ← keyword? "OR" then orRest fuel (← deep (.binary .or lhs (← andLevel fuel))) else pure lhs

/-- The `AND` level. -/
def andLevel : Nat → ParseM Expr
  | 0 => syntaxError
  | fuel + 1 => do andRest fuel (← notLevel fuel)

/-- Further operands of `AND`. -/
def andRest : Nat → Expr → ParseM Expr
  | 0, lhs => pure lhs
  | fuel + 1, lhs => do
    if ← keyword? "AND" then andRest fuel (← deep (.binary .and lhs (← notLevel fuel))) else pure lhs

/-- The `NOT` level. -/
def notLevel : Nat → ParseM Expr
  | 0 => syntaxError
  | fuel + 1 => do
    if ← keyword? "NOT" then deep (.unary .not (← notLevel fuel)) else equalityLevel fuel

/-- The equality level. -/
def equalityLevel : Nat → ParseM Expr
  | 0 => syntaxError
  | fuel + 1 => do equalityRest fuel (← comparisonLevel fuel)

/-- Further operators of the equality level. -/
def equalityRest : Nat → Expr → ParseM Expr
  | 0, lhs => pure lhs
  | fuel + 1, lhs => do
    match ← peek with
    | some (.symbol "=") | some (.symbol "==") =>
      advance
      equalityRest fuel (← deep (.binary .eq lhs (← comparisonLevel fuel)))
    | some (.symbol "!=") | some (.symbol "<>") =>
      advance
      equalityRest fuel (← deep (.binary .ne lhs (← comparisonLevel fuel)))
    | some (.word w) =>
      match keywordOf w with
      | "IS" =>
        advance
        let negated ← keyword? "NOT"
        let distinct ← if ← keyword? "DISTINCT" then do expectKeyword "FROM"; pure true else pure false
        let rhs ← comparisonLevel fuel
        equalityRest fuel (← deep (.binary (if negated != distinct then .isNot else .is) lhs rhs))
      | "ISNULL" => advance; equalityRest fuel (← deep (.isNull lhs false))
      | "NOTNULL" => advance; equalityRest fuel (← deep (.isNull lhs true))
      | "NOT" =>
        advance
        if ← keyword? "NULL" then equalityRest fuel (← deep (.isNull lhs true))
        else equalityRest fuel (← negatable fuel lhs true)
      | "IN" | "LIKE" | "GLOB" | "REGEXP" | "MATCH" | "BETWEEN" =>
        equalityRest fuel (← negatable fuel lhs false)
      | _ => pure lhs
    | _ => pure lhs

/-- Reads `IN`, a pattern operator or `BETWEEN` with its operands, after an
operand and an optional `NOT`. -/
def negatable : Nat → Expr → Bool → ParseM Expr
  | 0, _, _ => syntaxError
  | fuel + 1, lhs, negated => do
    match ← peek with
    | some (.word w) =>
      if isKeywordWord w "BETWEEN" then
        advance
        let lo ← comparisonLevel fuel
        expectKeyword "AND"
        let hi ← comparisonLevel fuel
        deep (.between lhs lo hi negated)
      else if isKeywordWord w "IN" then
        advance
        inRest fuel lhs negated
      else
        match matchOp? w with
        | some op =>
          advance
          let pat ← comparisonLevel fuel
          let esc ← if ← keyword? "ESCAPE" then some <$> comparisonLevel fuel else pure none
          deep (.pattern op lhs pat esc negated)
        | none => syntaxError
    | _ => syntaxError

/-- Reads what follows `IN`: a list or a select in parentheses, or a table. -/
def inRest : Nat → Expr → Bool → ParseM Expr
  | 0, _, _ => syntaxError
  | fuel + 1, lhs, negated => do
    if ← symbol? "(" then
      if ← symbol? ")" then
        return .literal (.integer (if negated then 1 else 0))
      if ← atSelect then
        let q ← select fuel
        expectSymbol ")"
        return ← deep (.inSelect lhs q negated)
      let items ← exprList fuel
      expectSymbol ")"
      match items, lhs with
      | [y], .row _ => deep (.inList lhs [y] negated)
      | [y], _ =>
        if Expr.isConstant 1000 y then
          let cmp ← deep (.binary .eq lhs (← deep (.unary .pos y)))
          if negated then deep (.unary .not cmp) else pure cmp
        else deep (.inList lhs items negated)
      | _, _ => deep (.inList lhs items negated)
    else
      let (schema, t) ← qualifiedName
      if ← symbol? "(" then
        if !(← symbol? ")") then
          discard (exprList fuel)
          expectSymbol ")"
      let q : Select := .mk false [] (.select false [.all] [.mk .inner false (.table schema t none) none none]
        none [] none []) [] [] none none
      deep (.inSelect lhs q negated)

/-- The comparison level. -/
def comparisonLevel : Nat → ParseM Expr
  | 0 => syntaxError
  | fuel + 1 => do comparisonRest fuel (← bitLevel fuel)

/-- Further operands of the comparisons. -/
def comparisonRest : Nat → Expr → ParseM Expr
  | 0, lhs => pure lhs
  | fuel + 1, lhs => do
    match comparisonOp? (← peek) with
    | some op => advance; comparisonRest fuel (← deep (.binary op lhs (← bitLevel fuel)))
    | none => pure lhs

/-- The bit operator level. -/
def bitLevel : Nat → ParseM Expr
  | 0 => syntaxError
  | fuel + 1 => do bitRest fuel (← addLevel fuel)

/-- Further operands of the bit operators. -/
def bitRest : Nat → Expr → ParseM Expr
  | 0, lhs => pure lhs
  | fuel + 1, lhs => do
    match bitOp? (← peek) with
    | some op => advance; bitRest fuel (← deep (.binary op lhs (← addLevel fuel)))
    | none => pure lhs

/-- The sum level. -/
def addLevel : Nat → ParseM Expr
  | 0 => syntaxError
  | fuel + 1 => do addRest fuel (← mulLevel fuel)

/-- Further operands of `+` and `-`. -/
def addRest : Nat → Expr → ParseM Expr
  | 0, lhs => pure lhs
  | fuel + 1, lhs => do
    match addOp? (← peek) with
    | some op => advance; addRest fuel (← deep (.binary op lhs (← mulLevel fuel)))
    | none => pure lhs

/-- The product level. -/
def mulLevel : Nat → ParseM Expr
  | 0 => syntaxError
  | fuel + 1 => do mulRest fuel (← concatLevel fuel)

/-- Further operands of `*`, `/` and `%`. -/
def mulRest : Nat → Expr → ParseM Expr
  | 0, lhs => pure lhs
  | fuel + 1, lhs => do
    match mulOp? (← peek) with
    | some op => advance; mulRest fuel (← deep (.binary op lhs (← concatLevel fuel)))
    | none => pure lhs

/-- The concatenation level. -/
def concatLevel : Nat → ParseM Expr
  | 0 => syntaxError
  | fuel + 1 => do concatRest fuel (← collateLevel fuel)

/-- Further operands of `||`, `->` and `->>`. -/
def concatRest : Nat → Expr → ParseM Expr
  | 0, lhs => pure lhs
  | fuel + 1, lhs => do
    match concatOp? (← peek) with
    | some op => advance; concatRest fuel (← deep (.binary op lhs (← collateLevel fuel)))
    | none => pure lhs

/-- The collation level: an operand and the collations after it. -/
def collateLevel : Nat → ParseM Expr
  | 0 => syntaxError
  | fuel + 1 => do collateRest fuel (← unaryLevel fuel)

/-- Further `COLLATE` clauses. -/
def collateRest : Nat → Expr → ParseM Expr
  | 0, e => pure e
  | fuel + 1, e => do
    if ← keyword? "COLLATE" then
      match ← peek with
      | some (.string s) => advance; collateRest fuel (.collate e s)
      | some t =>
        match t.identifier? with
        | some n => advance; collateRest fuel (.collate e n)
        | none => syntaxError
      | none => syntaxError
    else pure e

/-- An operand with its signs. -/
def unaryLevel : Nat → ParseM Expr
  | 0 => syntaxError
  | fuel + 1 => do
    match ← peek with
    | some (.symbol "-") => advance; deep (.unary .neg (← unaryLevel fuel))
    | some (.symbol "+") => advance; deep (.unary .pos (← unaryLevel fuel))
    | some (.symbol "~") => advance; deep (.unary .bitNot (← unaryLevel fuel))
    | some (.word w) =>
      if isKeywordWord w "NOT" then
        advance
        deep (.unary .not (← notLevel fuel))
      else primary fuel
    | _ => primary fuel

/-- An operand: a literal, a parameter, a name, a call, an expression or a
select in parentheses, a row value, `CASE`, `CAST`, `EXISTS` or `RAISE`. -/
def primary : Nat → ParseM Expr
  | 0 => syntaxError
  | fuel + 1 => do
    match ← peek with
    | none => syntaxError
    | some (.integer t) | some (.real t) => advance; pure (.number t)
    | some (.blob bs) => advance; pure (.literal (.blob bs))
    | some (.variable v) => advance; pure (.param (← slotNumber v))
    | some (.string s) =>
      if ← secondIsSymbol "." then advance; qualifiedRest s
      else advance; pure (.literal (.ofString s))
    | some (.symbol "(") =>
      advance
      if ← atSelect then
        let q ← select fuel
        expectSymbol ")"
        deep (.scalar q)
      else
        let e ← expr fuel
        if ← symbol? "," then
          let more ← exprList fuel
          expectSymbol ")"
          pure (.row (e :: more))
        else
          expectSymbol ")"
          pure e
    | some (.quoted q c) =>
      advance
      if ← atSymbol "." then qualifiedRest q
      else if ← atSymbol "(" then callRest fuel q
      else if c == '"' then pure (.quotedName q)
      else pure (.column none none q)
    | some (.word w) =>
      match keywordOf w with
      | "NULL" => advance; pure (.literal .null)
      | "CURRENT_TIME" | "CURRENT_DATE" | "CURRENT_TIMESTAMP" =>
        advance
        pure (.call (upperWord w) false [] none none)
      | "CASE" => advance; caseRest fuel
      | "CAST" =>
        advance
        expectSymbol "("
        let e ← expr fuel
        expectKeyword "AS"
        let t ← typeName
        expectSymbol ")"
        pure (.cast e (dequoteText t))
      | "EXISTS" =>
        advance
        expectSymbol "("
        let q ← select fuel
        expectSymbol ")"
        deep (.exists q)
      | "RAISE" =>
        advance
        expectSymbol "("
        if ← keyword? "IGNORE" then
          expectSymbol ")"
          pure (.raise .ignore none)
        else
          let kind ← if ← keyword? "ROLLBACK" then pure RaiseKind.rollback
            else if ← keyword? "ABORT" then pure .abort
            else if ← keyword? "FAIL" then pure .fail
            else syntaxError
          expectSymbol ","
          let m ← name
          expectSymbol ")"
          pure (.raise kind (some (.literal (.ofString m))))
      | _ =>
        if isReservedWord w then syntaxError
        else
          advance
          if ← atSymbol "." then qualifiedRest w
          else if ← atSymbol "(" then callRest fuel w
          else pure (.column none none w)
    | some _ => syntaxError

/-- Reads a call after the function's name: its arguments in parentheses,
then an optional filter and window. -/
def callRest : Nat → String → ParseM Expr
  | 0, _ => syntaxError
  | fuel + 1, fn => do
    expectSymbol "("
    if ← symbol? "*" then
      expectSymbol ")"
      let (filter, overClause) ← filterOver fuel
      return .callStar fn filter overClause
    if ← symbol? ")" then
      let (filter, overClause) ← filterOver fuel
      return ← deep (.call fn false [] filter overClause)
    let distinct ← if ← keyword? "DISTINCT" then pure true else do discard (keyword? "ALL"); pure false
    let args ← exprList fuel
    expectSymbol ")"
    let (filter, overClause) ← filterOver fuel
    deep (.call fn distinct args filter overClause)

/-- Reads an optional `FILTER (WHERE …)` and an optional `OVER` window after a call. -/
def filterOver : Nat → ParseM (Option Expr × Option Over)
  | 0 => pure (none, none)
  | fuel + 1 => do
    let filter ← if (← atKeyword "FILTER") && (← secondIsSymbol "(") then do
        advance
        advance
        expectKeyword "WHERE"
        let e ← expr fuel
        expectSymbol ")"
        pure (some e)
      else pure none
    let overNext ← if ← atKeyword "OVER" then do
        match ← peekSecond with
        | some (.symbol "(") => pure true
        | some t => pure (t.isName && !(t.isKeyword "INDEXED"))
        | none => pure false
      else pure false
    if overNext then
      advance
      if ← symbol? "(" then
        let w ← windowSpec fuel
        expectSymbol ")"
        return (filter, some (.spec w))
      return (filter, some (.named (← name)))
    pure (filter, none)

/-- Reads a window written out, inside its parentheses. -/
def windowSpec : Nat → ParseM Window
  | 0 => syntaxError
  | fuel + 1 => do
    let base ← do
      match ← peek with
      | some t =>
        if t.isKeyword "PARTITION" || t.isKeyword "ORDER" || t.isKeyword "RANGE" || t.isKeyword "ROWS" ||
            t.isKeyword "GROUPS" then pure none
        else name?
      | none => pure none
    let partition ← if ← keyword? "PARTITION" then do expectKeyword "BY"; exprList fuel else pure []
    let orders ← if ← keyword? "ORDER" then do expectKeyword "BY"; orderTerms fuel else pure []
    let frame ← frameSpec fuel
    pure (.mk base partition orders frame)

/-- Reads an optional window frame. -/
def frameSpec : Nat → ParseM (Option Frame)
  | 0 => pure none
  | fuel + 1 => do
    let unit ← if ← keyword? "ROWS" then pure (some FrameUnit.rows)
      else if ← keyword? "RANGE" then pure (some .range)
      else if ← keyword? "GROUPS" then pure (some .groups)
      else pure none
    match unit with
    | none => pure none
    | some unit =>
      let (start, finish) ← if ← keyword? "BETWEEN" then do
          let s ← frameBound fuel true
          expectKeyword "AND"
          let f ← frameBound fuel false
          pure (s, f)
        else pure (← frameBound fuel true, FrameBound.currentRow)
      let exclude ← if ← keyword? "EXCLUDE" then do
          if ← keyword? "NO" then do expectKeyword "OTHERS"; pure FrameExclude.noOthers
          else if ← keyword? "CURRENT" then do expectKeyword "ROW"; pure .currentRow
          else if ← keyword? "GROUP" then pure .group
          else if ← keyword? "TIES" then pure .ties
          else syntaxError
        else pure .unstated
      pure (some (.mk unit start finish exclude))

/-- Reads one end of a frame: the start when `isStart`. -/
def frameBound : Nat → Bool → ParseM FrameBound
  | 0, _ => syntaxError
  | fuel + 1, isStart => do
    if (← atKeyword "UNBOUNDED") then
      advance
      if isStart then do expectKeyword "PRECEDING"; pure .unboundedPreceding
      else do expectKeyword "FOLLOWING"; pure .unboundedFollowing
    else if (← atKeyword "CURRENT") && (← secondIsKeyword "ROW") then
      advance
      advance
      pure .currentRow
    else
      let e ← expr fuel
      if ← keyword? "PRECEDING" then pure (.preceding e)
      else do expectKeyword "FOLLOWING"; pure (.following e)

/-- Reads a `CASE` expression after `CASE`. -/
def caseRest : Nat → ParseM Expr
  | 0 => syntaxError
  | fuel + 1 => do
    let operand ← if ← atKeyword "WHEN" then pure none else some <$> expr fuel
    let branches ← whenBranches fuel
    let otherwise ← if ← keyword? "ELSE" then some <$> expr fuel else pure none
    expectKeyword "END"
    deep (.choice operand branches otherwise)

/-- Reads `WHEN … THEN …` branches, at least one. -/
def whenBranches : Nat → ParseM (List (Expr × Expr))
  | 0 => syntaxError
  | fuel + 1 => do
    expectKeyword "WHEN"
    let w ← expr fuel
    expectKeyword "THEN"
    let t ← expr fuel
    if ← atKeyword "WHEN" then return (w, t) :: (← whenBranches fuel) else pure [(w, t)]

/-- Reads expressions separated by commas, at least one. -/
def exprList : Nat → ParseM (List Expr)
  | 0 => syntaxError
  | fuel + 1 => do
    let e ← expr fuel
    if ← symbol? "," then return e :: (← exprList fuel) else pure [e]

/-- Reads the terms of an ordering. -/
def orderTerms : Nat → ParseM (List OrderTerm)
  | 0 => syntaxError
  | fuel + 1 => do
    let e ← expr fuel
    let descending ← if ← keyword? "DESC" then pure true else do discard (keyword? "ASC"); pure false
    let nullsFirst ← if ← keyword? "NULLS" then do
        if ← keyword? "FIRST" then pure (some true) else do expectKeyword "LAST"; pure (some false)
      else pure none
    let t := OrderTerm.mk e descending nullsFirst
    if ← symbol? "," then return t :: (← orderTerms fuel) else pure [t]

/-- Reads a result column. -/
def resultColumn : Nat → ParseM ResultColumn
  | 0 => syntaxError
  | fuel + 1 => do
    if ← symbol? "*" then return .all
    match ← peek, ← peekSecond, ← peekThird with
    | some t, some (.symbol "."), some (.symbol "*") =>
      match t.name? with
      | some n => advance; advance; advance; return .allOf n
      | none => pure ()
    | _, _, _ => pure ()
    let start ← position
    let e ← expr fuel
    let stop ← position
    let a ← aliasHere
    pure (.expr e a (trimSpan (← textBetween start stop)))

/-- Reads result columns separated by commas. -/
def resultColumns : Nat → ParseM (List ResultColumn)
  | 0 => syntaxError
  | fuel + 1 => do
    let c ← resultColumn fuel
    if ← symbol? "," then return c :: (← resultColumns fuel) else pure [c]

/-- Reads a source of rows: a table, a table function, a select or joined
sources in parentheses, each with an optional alias. -/
def source : Nat → ParseM Source
  | 0 => syntaxError
  | fuel + 1 => do
    if ← symbol? "(" then
      if ← atSelect then
        let q ← select fuel
        expectSymbol ")"
        return .query q (← aliasHere)
      let items ← fromList fuel
      expectSymbol ")"
      return .nested items (← aliasHere)
    let (schema, t) ← qualifiedName
    if ← symbol? "(" then
      let args ← if ← atSymbol ")" then pure [] else exprList fuel
      expectSymbol ")"
      return .function t args (← aliasHere)
    let a ← aliasHere
    if ← keyword? "INDEXED" then
      expectKeyword "BY"
      discard name
    else if (← atKeyword "NOT") && (← secondIsKeyword "INDEXED") then
      advance
      advance
    pure (.table schema t a)

/-- Reads the join constraint after a source: `ON` and a condition, or
`USING` and column names. -/
def joinConstraint : Nat → ParseM (Option Expr × Option (List String))
  | 0 => pure (none, none)
  | fuel + 1 => do
    if ← keyword? "ON" then return (some (← expr fuel), none)
    if ← keyword? "USING" then return (none, some (← nameList))
    pure (none, none)

/-- Reads sources joined to one another. -/
def fromList : Nat → ParseM (List FromItem)
  | 0 => syntaxError
  | fuel + 1 => do
    let first ← source fuel
    let (on, usingColumns) ← joinConstraint fuel
    let rest ← joinedItems fuel
    pure (.mk .inner false first on usingColumns :: rest)

/-- Reads further joined sources. -/
def joinedItems : Nat → ParseM (List FromItem)
  | 0 => pure []
  | fuel + 1 => do
    match ← joinOp? with
    | none => pure []
    | some (kind, natural) =>
      let src ← source fuel
      let (on, usingColumns) ← joinConstraint fuel
      return .mk kind natural src on usingColumns :: (← joinedItems fuel)

/-- Reads rows of values in parentheses, after `VALUES`. -/
def valueRows : Nat → ParseM (List (List Expr))
  | 0 => syntaxError
  | fuel + 1 => do
    expectSymbol "("
    let row ← exprList fuel
    expectSymbol ")"
    if ← symbol? "," then return row :: (← valueRows fuel) else pure [row]

/-- Reads the definitions of a window clause. -/
def windowDefs : Nat → ParseM (List (String × Window))
  | 0 => syntaxError
  | fuel + 1 => do
    let n ← name
    expectKeyword "AS"
    expectSymbol "("
    let w ← windowSpec fuel
    expectSymbol ")"
    if ← symbol? "," then return (n, w) :: (← windowDefs fuel) else pure [(n, w)]

/-- Reads the paging of a select: `LIMIT n`, `LIMIT n OFFSET m` or `LIMIT m, n`. -/
def limitClause : Nat → ParseM (Option Expr × Option Expr)
  | 0 => pure (none, none)
  | fuel + 1 => do
    if ← keyword? "LIMIT" then
      let first ← expr fuel
      if ← keyword? "OFFSET" then return (some first, some (← expr fuel))
      if ← symbol? "," then return (some (← expr fuel), some first)
      return (some first, none)
    pure (none, none)

/-- Reads one select of a compound, with the ordering and paging after it. -/
def oneSelect : Nat → ParseM (Core × SelectTail)
  | 0 => syntaxError
  | fuel + 1 => do
    if ← keyword? "VALUES" then return (.values (← valueRows fuel), {})
    expectKeyword "SELECT"
    let distinct ← if ← keyword? "DISTINCT" then pure true else do discard (keyword? "ALL"); pure false
    let columns ← resultColumns fuel
    let sources ← if ← keyword? "FROM" then fromList fuel else pure []
    let filter ← if ← keyword? "WHERE" then some <$> expr fuel else pure none
    let groups ← if ← keyword? "GROUP" then do expectKeyword "BY"; exprList fuel else pure []
    let having ← if ← keyword? "HAVING" then some <$> expr fuel else pure none
    let windows ← if ← atWindowClause then do advance; windowDefs fuel else pure []
    let orders ← if ← keyword? "ORDER" then do expectKeyword "BY"; orderTerms fuel else pure []
    let (limit, offset) ← limitClause fuel
    pure (.select distinct columns sources filter groups having windows, { orders, limit, offset })

/-- Reads further selects of a compound with their operators. -/
def compoundRest : Nat → ParseM (List (CompoundOp × Core × SelectTail))
  | 0 => pure []
  | fuel + 1 => do
    let op ← if ← keyword? "UNION" then do
        if ← keyword? "ALL" then pure (some CompoundOp.unionAll) else pure (some .union)
      else if ← keyword? "INTERSECT" then pure (some .intersect)
      else if ← keyword? "EXCEPT" then pure (some .except)
      else pure none
    match op with
    | none => pure []
    | some op =>
      let (c, t) ← oneSelect fuel
      return (op, c, t) :: (← compoundRest fuel)

/-- Reads the common table expressions of a `WITH` clause, after `WITH`. -/
def ctes : Nat → ParseM (List Cte)
  | 0 => syntaxError
  | fuel + 1 => do
    let n ← name
    let cols ← if ← atSymbol "(" then nameList else pure []
    expectKeyword "AS"
    if ← keyword? "NOT" then expectKeyword "MATERIALIZED" else discard (keyword? "MATERIALIZED")
    expectSymbol "("
    let q ← select fuel
    expectSymbol ")"
    let c := Cte.mk n cols q
    if ← symbol? "," then return c :: (← ctes fuel) else pure [c]

/-- Reads an optional `WITH` clause: whether it is recursive, and its expressions. -/
def withClause : Nat → ParseM (Bool × List Cte)
  | 0 => pure (false, [])
  | fuel + 1 => do
    if ← keyword? "WITH" then
      let recursive ← keyword? "RECURSIVE"
      return (recursive, ← ctes fuel)
    pure (false, [])

/-- Reads a select. -/
def select : Nat → ParseM Select
  | 0 => syntaxError
  | fuel + 1 => do
    let (recursive, cs) ← withClause fuel
    let (first, firstTail) ← oneSelect fuel
    let rest ← compoundRest fuel
    -- every select but the last must leave ordering and paging to the end
    let tails := firstTail :: rest.map (·.2.2)
    let ops := rest.map (·.1)
    let misplaced := ((tails.dropLast.zip ops).reverse.find? fun (t, _) => !t.isEmpty)
    if let some (t, op) := misplaced then
      throw (operational ((if t.orders.isEmpty then "LIMIT" else "ORDER BY") ++ " clause should come after " ++
        op.label ++ " not before"))
    let last := tails.getLast?.getD {}
    pure (.mk recursive cs first (rest.map fun (op, c, _) => (op, c)) last.orders last.limit last.offset)

end

end Parse

end SqlMapper.Database
