import Mathlib
import SqlMapper.Proofs.AppendOnly
import SqlMapper.Proofs.JoinAliases

/-!
# The count of a select

A select's count is written from the select without its ordering, paging and
locking (`Query.unordered`). A grouped, distinct or combined select is counted
over itself as a sub-query: its `WITH` clause, then `SELECT count(*) FROM (`,
the rest of the select, and `) AS "_count_wrapper"`. Any other select is
counted in place, with `count(*)` where its select list stood. Either way the
count binds the parameters of the select in their order, less those of the
select list when it is counted in place (`count_wraps_or_replaces_select_list`).

A statement is read here part by part. Putting pieces together only appends
text and parameters (`Statement.build_append`) and writing only appends pieces
(`SqlM.Appends`), so the statement of one writing after another is the two
statements joined (`SqlM.statement_seq`).
-/

set_option autoImplicit false

namespace SqlMapper

open SqlMapper.Schema SqlMapper.Calendar

namespace Statement

/-- Statements joined: the texts one after the other, and the parameters. -/
instance : Append Statement where
  append a b := { text := a.text ++ b.text, params := a.params ++ b.params }

@[simp] theorem append_text (a b : Statement) : (a ++ b).text = a.text ++ b.text := rfl

@[simp] theorem append_params (a b : Statement) : (a ++ b).params = a.params ++ b.params := rfl

/-- A statement of text alone. -/
def ofText (text : String) : Statement := { text := text }

theorem append_assoc (a b c : Statement) : a ++ b ++ c = a ++ (b ++ c) := by
  show Statement.mk _ _ = Statement.mk _ _
  simp [String.append_assoc, Array.append_assoc]

theorem append_empty (st : Statement) : st ++ {} = st := by
  show Statement.mk _ _ = st
  simp

variable (d : Dialect) (inline : Bool)

/-- A piece adds to a statement what it adds to the empty one. -/
theorem add_from (st : Statement) (piece : Piece) :
    add d inline st piece = (st ++ ·) <$> add d inline {} piece := by
  cases piece with
  | text s =>
    show Except.ok _ = Except.ok (Statement.mk _ _)
    simp
  | value v =>
    cases inline with
    | true =>
      simp only [add, if_true]
      cases d.quoteLiteral v <;> rfl
    | false =>
      simp only [add]
      cases d.convertParam v with
      | error f => rfl
      | ok param =>
        show Except.ok _ = Except.ok (Statement.mk _ _)
        simp

/-- Adding pieces to a statement appends to it what they add to the empty one. -/
theorem foldlM_add_from (pieces : List Piece) (st : Statement) :
    pieces.foldlM (add d inline) st = (st ++ ·) <$> pieces.foldlM (add d inline) {} := by
  induction pieces generalizing st with
  | nil => simp [append_empty]
  | cons piece rest ih =>
    simp only [List.foldlM_cons]
    rw [add_from d inline st piece, bind_map_left, map_bind]
    congr 1
    funext added
    rw [ih, ih added, Functor.map_map]
    simp only [append_assoc]

/-- Two runs of pieces put together are each put together and joined; the first piece
that cannot be added stops it. -/
theorem build_append (first second : Array Piece) :
    build d inline (first ++ second) =
      (do let a ← build d inline first; let b ← build d inline second; pure (a ++ b)) := by
  unfold build
  rw [Array.foldlM_append]
  congr 1
  funext a
  rw [← Array.foldlM_toList, foldlM_add_from, Array.foldlM_toList, map_eq_pure_bind]

end Statement

namespace Dialect

/-- Text without a percent sign is bound as it is written. -/
theorem escapeText_of_percent_not_mem (d : Dialect) {text : String} (plain : '%' ∉ text.toList) :
    d.escapeText text = text := by
  unfold Dialect.escapeText
  split
  · have kept : ∀ c ∈ text.toList, (if c == '%' then ['%', '%'] else [c]) = [c] := by
      intro c mem
      have other : c ≠ '%' := fun same => plain (same ▸ mem)
      simp [other]
    rw [List.flatMap_congr kept, List.flatMap_singleton', String.ofList_toList]
  · rfl

theorem escapeText_empty (d : Dialect) : d.escapeText "" = "" :=
  d.escapeText_of_percent_not_mem (by simp)

/-- The name a count wraps its sub-query under is quoted without a percent sign. -/
theorem quoteIdentifier_count_wrapper_plain (d : Dialect) :
    '%' ∉ (d.quoteIdentifier "_count_wrapper").toList := by
  have parts : dottedParts "_count_wrapper" = ["_count_wrapper"] := by
    unfold dottedParts
    decide
  rw [quoteIdentifier, parts]
  cases d with
  | mysql v =>
    -- every version quotes with the same character
    have same : (Dialect.mysql v).quotePart = (Dialect.mysql 8).quotePart := rfl
    rw [same]
    decide
  | _ => decide

end Dialect

namespace SqlM

variable (d : Dialect) (inline : Bool)

/-- The statement of one writing after another is the two statements joined: the first
fault met, in putting pieces together or in writing, stops it. -/
theorem statement_seq {m n : SqlM Unit} (first : m.Appends) (second : n.Appends) :
    (m >>= fun _ => n).statement d inline =
      (do let a ← m.statement d inline; let b ← n.statement d inline; pure (a ++ b)) := by
  obtain ⟨r, ps, ran⟩ := first
  obtain ⟨r', ps', ran'⟩ := second
  have alone : m.run.run #[] = (r, ps) := by rw [ran, Array.empty_append]
  have aloneN : n.run.run #[] = (r', ps') := by rw [ran', Array.empty_append]
  unfold SqlM.statement
  cases r with
  | error f =>
    -- the second writing never runs
    have whole : (m >>= fun _ => n).run.run #[] = (.error f, ps) := by
      simp only [ExceptT.run_bind, StateT.run_bind, alone]
      rfl
    rw [whole, alone]
    dsimp only
    cases Statement.build d inline ps <;> rfl
  | ok u =>
    have whole : (m >>= fun _ => n).run.run #[] = (r', ps ++ ps') := by
      simp only [ExceptT.run_bind, StateT.run_bind, alone]
      exact ran' ps
    rw [whole, alone, aloneN]
    dsimp only
    rw [Statement.build_append]
    cases Statement.build d inline ps <;> cases Statement.build d inline ps' <;> cases r' <;> rfl

/-- Text is bound escaped for the dialect's parameter markers. -/
theorem statement_write (fr : Frame) (text : String) :
    (fr.write text).statement d false = .ok (Statement.ofText (d.escapeText text)) := by
  unfold Frame.write
  split
  · rename_i empty
    rw [String.isEmpty_iff.1 empty, Dialect.escapeText_empty]
    rfl
  · show Except.ok (Statement.mk _ _) = _
    rw [if_neg Bool.false_ne_true, String.empty_append]
    rfl

end SqlM

/-- Whether the selects of a combined select are each written in parentheses: where there
are others and the dialect writes them. -/
def SelectClauses.parenthesized (c : SelectClauses) (d : Dialect) : Bool :=
  !c.setOps.isEmpty && d.supportsParenthesizedSetOperations

namespace Query

variable {p : Painter} {fr : Frame} {q : Query}

theorem dialectIn_frame (bound : q.bound = true) (cat : Catalog) (d : Dialect) (clock : DateTime) :
    q.dialectIn (q.frame cat d clock) = .ok d := by
  rw [Query.dialectIn, if_pos bound]
  rfl

theorem dialect_of_dialectIn {d : Dialect} (dialect : q.dialectIn fr = .ok d) : fr.dialect = d := by
  unfold Query.dialectIn at dialect
  split at dialect
  · exact Except.ok.inj dialect
  · cases dialect

/-- A select without a fault, bound to a session, renders as it is written. -/
theorem render_select {c : SelectClauses} (select : q.clauses = .select c) (fine : q.fault = none)
    (bound : q.bound = true) (cat : Catalog) (d : Dialect) (clock : DateTime) (inline count : Bool) :
    q.render cat d clock inline count =
      (q.writeSelect q.painter (q.frame cat d clock) c count).statement d inline := by
  unfold Query.render Query.writeStatement
  simp only [fine, bound, select, Bool.not_true, Bool.false_eq_true, reduceIte]

@[simp] theorem unordered_fault : q.unordered.fault = q.fault := by
  unfold Query.unordered
  split <;> rfl

@[simp] theorem unordered_bound : q.unordered.bound = q.bound := by
  unfold Query.unordered
  split <;> rfl

theorem unordered_clauses {c : SelectClauses} (select : q.clauses = .select c) :
    q.unordered.clauses = .select c.unordered := by
  rw [Query.unordered, select]

/-- Without ordering, paging and locking, a select ends the same way written whole or
for its count. -/
theorem writeSelectTail_unordered (c : SelectClauses) (d : Dialect) (paren : Bool) :
    q.writeSelectTail p fr c.unordered d paren true = q.writeSelectTail p fr c.unordered d paren false := by
  have unpaged : fr.write (d.limitOffset (paging 0) (paging 0)) = pure () := by
    simp [paging, Dialect.limitOffset, Frame.write]
  unfold Query.writeSelectTail Query.writeSelectRest
  simp only [SelectClauses.unordered, List.isEmpty_nil, Bool.not_true, Bool.not_false, Bool.false_eq_true,
    reduceIte, unpaged, pure_bind]

/-! ## A select written whole, wrapped or counted in place -/

section Writing

variable (c : SelectClauses) {d : Dialect} (dialect : q.dialectIn fr = .ok d)
include dialect

theorem writeSelect_listed :
    q.writeSelect p fr c false =
      (do q.writeWith p fr
          writeSelectHead p fr c d (c.parenthesized d)
          q.writeColumns p fr c
          q.writeSelectTail p fr c d (c.parenthesized d) false) := by
  unfold Query.writeSelect
  rw [dialect]
  simp only [Bool.false_and, Bool.false_eq_true, if_false, bind_pure_unit]
  rfl

theorem writeSelect_wrapped (wraps : c.wrapsCount = true) :
    q.writeSelect p fr c true =
      (do q.writeWith p fr
          fr.write "SELECT count(*) FROM ("
          writeSelectHead p fr c d (c.parenthesized d)
          q.writeColumns p fr c
          q.writeSelectTail p fr c d (c.parenthesized d) true
          fr.write ") AS "
          fr.writeIdent "_count_wrapper") := by
  unfold Query.writeSelect
  rw [dialect]
  simp only [wraps, Bool.true_and, Bool.not_true, Bool.false_eq_true, reduceIte]
  rfl

theorem writeSelect_counted (plain : c.wrapsCount = false) :
    q.writeSelect p fr c true =
      (do q.writeWith p fr
          writeSelectHead p fr c d (c.parenthesized d)
          fr.write "count(*)"
          q.writeSelectTail p fr c d (c.parenthesized d) true) := by
  unfold Query.writeSelect
  rw [dialect]
  simp only [plain, Bool.true_and, Bool.not_false, Bool.false_eq_true, reduceIte, bind_pure_unit]
  rfl

variable (hp : p.Appends)
include hp

/-- A select's statement is its `WITH` clause, its head, its select list and the rest, joined. -/
theorem listed_statement :
    (q.writeSelect p fr c false).statement d false =
      (do let w ← (q.writeWith p fr).statement d false
          let h ← (writeSelectHead p fr c d (c.parenthesized d)).statement d false
          let l ← (q.writeColumns p fr c).statement d false
          let t ← (q.writeSelectTail p fr c d (c.parenthesized d) false).statement d false
          pure (w ++ h ++ l ++ t)) := by
  have W := writeWith_appends hp fr q
  have H := writeSelectHead_appends hp fr c d (c.parenthesized d)
  have L := writeColumns_appends hp fr q c
  have T := writeSelectTail_appends hp fr q c d (c.parenthesized d) false
  rw [writeSelect_listed c dialect, SqlM.statement_seq d false W (H.bind fun _ => L.bind fun _ => T),
    SqlM.statement_seq d false H (L.bind fun _ => T), SqlM.statement_seq d false L T]
  simp only [bind_assoc, pure_bind, Statement.append_assoc]

/-- Counted in place, `count(*)` stands where the select list stood. -/
theorem counted_statement (plain : c.wrapsCount = false) :
    (q.writeSelect p fr c true).statement d false =
      (do let w ← (q.writeWith p fr).statement d false
          let h ← (writeSelectHead p fr c d (c.parenthesized d)).statement d false
          let t ← (q.writeSelectTail p fr c d (c.parenthesized d) true).statement d false
          pure (w ++ h ++ Statement.ofText "count(*)" ++ t)) := by
  have W := writeWith_appends hp fr q
  have H := writeSelectHead_appends hp fr c d (c.parenthesized d)
  have C := fr.write_appends "count(*)"
  have T := writeSelectTail_appends hp fr q c d (c.parenthesized d) true
  rw [writeSelect_counted c dialect plain, SqlM.statement_seq d false W (H.bind fun _ => C.bind fun _ => T),
    SqlM.statement_seq d false H (C.bind fun _ => T), SqlM.statement_seq d false C T, SqlM.statement_write,
    Dialect.escapeText_of_percent_not_mem d (show '%' ∉ "count(*)".toList by decide)]
  simp only [bind_assoc, pure_bind, Statement.append_assoc]
  rfl

/-- Wrapped, the select less its `WITH` clause is counted as a sub-query. -/
theorem wrapped_statement (wraps : c.wrapsCount = true) :
    (q.writeSelect p fr c true).statement d false =
      (do let w ← (q.writeWith p fr).statement d false
          let h ← (writeSelectHead p fr c d (c.parenthesized d)).statement d false
          let l ← (q.writeColumns p fr c).statement d false
          let t ← (q.writeSelectTail p fr c d (c.parenthesized d) true).statement d false
          pure (w ++ Statement.ofText "SELECT count(*) FROM (" ++ h ++ l ++ t ++
            Statement.ofText (") AS " ++ d.quoteIdentifier "_count_wrapper"))) := by
  have W := writeWith_appends hp fr q
  have S := fr.write_appends "SELECT count(*) FROM ("
  have H := writeSelectHead_appends hp fr c d (c.parenthesized d)
  have L := writeColumns_appends hp fr q c
  have T := writeSelectTail_appends hp fr q c d (c.parenthesized d) true
  have A := fr.write_appends ") AS "
  have I := fr.writeIdent_appends "_count_wrapper"
  rw [writeSelect_wrapped c dialect wraps,
    SqlM.statement_seq d false W (S.bind fun _ => H.bind fun _ => L.bind fun _ => T.bind fun _ => A.bind fun _ => I),
    SqlM.statement_seq d false S (H.bind fun _ => L.bind fun _ => T.bind fun _ => A.bind fun _ => I),
    SqlM.statement_seq d false H (L.bind fun _ => T.bind fun _ => A.bind fun _ => I),
    SqlM.statement_seq d false L (T.bind fun _ => A.bind fun _ => I),
    SqlM.statement_seq d false T (A.bind fun _ => I), SqlM.statement_seq d false A I,
    Frame.writeIdent, dialect_of_dialectIn dialect, SqlM.statement_write, SqlM.statement_write,
    SqlM.statement_write,
    Dialect.escapeText_of_percent_not_mem d (show '%' ∉ "SELECT count(*) FROM (".toList by decide),
    Dialect.escapeText_of_percent_not_mem d (show '%' ∉ ") AS ".toList by decide),
    Dialect.escapeText_of_percent_not_mem d (Dialect.quoteIdentifier_count_wrapper_plain d)]
  simp only [bind_assoc, pure_bind, Statement.append_assoc]
  rfl

end Writing

end Query

open Query

/-- The count of a select and the select without its ordering, paging and locking share
their `WITH` clause, head and tail, parameters included. A grouped, distinct or combined
select is counted over the rest of the select as a sub-query; any other is counted in
place, and the parameters of its select list drop out with it. -/
theorem count_wraps_or_replaces_select_list {q : Query} {c : SelectClauses} (select : q.clauses = .select c)
    (fine : q.fault = none) (bound : q.bound = true) (cat : Catalog) (d : Dialect) (clock : DateTime) :
    let q' := q.unordered
    let c' := c.unordered
    let fr := q'.frame cat d clock
    let part := fun (m : SqlM Unit) => m.statement d false
    let withs := part (q'.writeWith q'.painter fr)
    let head := part (writeSelectHead q'.painter fr c' d (c'.parenthesized d))
    let list := part (q'.writeColumns q'.painter fr c')
    let tail := part (q'.writeSelectTail q'.painter fr c' d (c'.parenthesized d) false)
    q'.toSql cat d clock =
        (do let w ← withs; let h ← head; let l ← list; let t ← tail; pure (w ++ h ++ l ++ t)) ∧
      q.countSql cat d clock =
        if c.wrapsCount then
          (do let w ← withs; let h ← head; let l ← list; let t ← tail
              pure (w ++ Statement.ofText "SELECT count(*) FROM (" ++ h ++ l ++ t ++
                Statement.ofText (") AS " ++ d.quoteIdentifier "_count_wrapper")))
        else
          (do let w ← withs; let h ← head; let t ← tail; pure (w ++ h ++ Statement.ofText "count(*)" ++ t)) := by
  intro q' c' fr part withs head list tail
  have select' : q'.clauses = .select c' := unordered_clauses select
  have fine' : q'.fault = none := by rw [unordered_fault, fine]
  have bound' : q'.bound = true := by rw [unordered_bound, bound]
  have dialect : q'.dialectIn fr = .ok d := dialectIn_frame bound' cat d clock
  have hp : q'.painter.Appends := Painter.upTo_appends _
  -- the count leaves out what `unordered` already took away, so its tail is the select's
  have counted : q'.writeSelectTail q'.painter fr c' d (c'.parenthesized d) true =
      q'.writeSelectTail q'.painter fr c' d (c'.parenthesized d) false :=
    writeSelectTail_unordered c d (c'.parenthesized d)
  constructor
  · rw [Query.toSql, render_select select' fine' bound']
    exact listed_statement c' dialect hp
  · rw [Query.countSql, render_select select' fine' bound']
    cases wraps : c.wrapsCount
    · rw [if_neg Bool.false_ne_true, counted_statement c' dialect hp wraps, counted]
    · rw [if_pos rfl, wrapped_statement c' dialect hp wraps, counted]

/-- Books grouped by author are counted over the grouped select as a sub-query. -/
theorem grouped_books_count_wrapped :
    let q : Query := { Query.new .select with schema := some bookTable,
                                               clauses := .select { groups := [.ident "author_id"] } }
    q.clauses = .select { groups := [.ident "author_id"] } ∧ q.fault = none ∧ q.bound = true ∧
      let q' := q.unordered
      let c' := SelectClauses.unordered { groups := [.ident "author_id"] }
      let fr := q'.frame authorCatalog .postgres default
      let part := fun (m : SqlM Unit) => m.statement .postgres false
      let withs := part (q'.writeWith q'.painter fr)
      let head := part (writeSelectHead q'.painter fr c' .postgres (c'.parenthesized .postgres))
      let list := part (q'.writeColumns q'.painter fr c')
      let tail := part (q'.writeSelectTail q'.painter fr c' .postgres (c'.parenthesized .postgres) false)
      q'.toSql authorCatalog .postgres default =
          (do let w ← withs; let h ← head; let l ← list; let t ← tail; pure (w ++ h ++ l ++ t)) ∧
        q.countSql authorCatalog .postgres default =
          if SelectClauses.wrapsCount { groups := [.ident "author_id"] } then
            (do let w ← withs; let h ← head; let l ← list; let t ← tail
                pure (w ++ Statement.ofText "SELECT count(*) FROM (" ++ h ++ l ++ t ++
                  Statement.ofText (") AS " ++ Dialect.postgres.quoteIdentifier "_count_wrapper")))
          else
            (do let w ← withs; let h ← head; let t ← tail
                pure (w ++ h ++ Statement.ofText "count(*)" ++ t)) :=
  ⟨rfl, rfl, rfl, count_wraps_or_replaces_select_list rfl rfl rfl authorCatalog .postgres default⟩

end SqlMapper
