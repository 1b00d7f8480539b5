import Mathlib
import SqlMapper.Proofs.QuotedIdentifiers
import SqlMapper.Proofs.UpdateAssignments
import SqlMapper.Query.Render

/-!
# Queries written inside others

A query written inside another (a sub-query argument, a common table
expression, a member of a set operation) is written by the outer painter in a
frame nested in the outer one: its own table, no alias of its own. At the top a
query is written in a frame of its own table too, but with the alias its kind
writes the table under: an insert names the table by its name, and a delete that
removes rows names it so on an engine without table aliases in `DELETE`.

Main statement: the nested frame is the top frame with its alias dropped; the two
agree exactly when the query is neither an insert into a table nor a delete that
removes rows of a table on such an engine, and then the query writes the same
pieces either way. An insert of a table writes its alias as the table's name at
the top and as the table's alias inside another query, so its `?TableAlias` and
the columns qualified by it differ between the two.
-/

set_option autoImplicit false

namespace SqlMapper

open SqlMapper.Schema SqlMapper.Calendar

namespace Query

variable (q : Query) (cat : Catalog) (d : Dialect) (clock : DateTime)

/-- The frame a query is written in inside another is its top frame without the alias. -/
theorem nested_frame (fr : Frame) :
    fr.nested q.schema = { q.frame fr.catalog fr.dialect fr.clock with explicitAlias := none } := rfl

/-- A query is written at the top under no alias of its own exactly when it is neither an
insert into a table nor a delete that removes rows of a table on an engine without table
aliases in `DELETE`. -/
theorem frame_explicitAlias_eq_none_iff :
    (q.frame cat d clock).explicitAlias = none ↔
      ∀ s, q.schema = some s → q.kind ≠ .insert ∧
        (q.kind = .delete → q.isSoftDelete = true ∨ d.supportsTableAliasInDelete = true) := by
  obtain ⟨bound, model, schema, ctes, tables, customTable, wheres, wherePk, visibility, returning, fault,
    clauses⟩ := q
  cases clauses with
  | delete force =>
    cases schema with
    | none => simp [frame, kind, Clauses.kind]
    | some s =>
      -- a delete is aliased by the table's name only when it removes rows on such an engine
      simp only [frame, kind, Clauses.kind, isSoftDelete]
      rcases Bool.eq_false_or_eq_true s.softDeleteColumn.isSome with marked | marked <;>
        rcases Bool.eq_false_or_eq_true d.supportsTableAliasInDelete with aliased | aliased <;>
        cases force <;> simp [marked, aliased]
  | _ => cases schema <;> simp [frame, kind, Clauses.kind]

/-- An insert into a table is written at the top under the table's name. -/
theorem frame_aliasName_of_insert {s : TableSchema} (schema : q.schema = some s) (insert : q.kind = .insert)
    (named : s.name ≠ "") : (q.frame cat d clock).aliasName = some s.name := by
  obtain ⟨bound, model, schema', ctes, tables, customTable, wheres, wherePk, visibility, returning, fault,
    clauses⟩ := q
  cases clauses <;> simp_all [frame, kind, Clauses.kind, Frame.aliasName, String.isEmpty_iff]

/-- Inside another query a query's table is written under the table's own alias. -/
theorem nested_aliasName {s : TableSchema} (fr : Frame) (schema : q.schema = some s) :
    (fr.nested q.schema).aliasName = some s.aliasName := by
  simp [Frame.nested, Frame.aliasName, schema]

end Query

/-! ## Main statement -/

/-- A query written inside another is written in its top frame with the alias dropped; the
two frames agree exactly when the query is neither an insert into a table nor a delete that
removes rows of a table on an engine without table aliases in `DELETE`, and then the query
writes the same pieces either way; an insert into a table is written under the table's name
at the top and under the table's alias inside another query. -/
theorem nested_query_written_in_top_frame (p : Painter) (fr : Frame) (q : Query) :
    let top := q.frame fr.catalog fr.dialect fr.clock
    q.writeStatement p (fr.nested q.schema) = q.writeStatement p { top with explicitAlias := none } ∧
      (top.explicitAlias = none ↔
        ∀ s, q.schema = some s → q.kind ≠ .insert ∧
          (q.kind = .delete → q.isSoftDelete = true ∨ fr.dialect.supportsTableAliasInDelete = true)) ∧
      (top.explicitAlias = none → ∀ count, q.writeStatement p (fr.nested q.schema) count = q.writeStatement p top count) ∧
      (∀ s, q.schema = some s → q.kind = .insert → s.name ≠ "" →
        top.aliasName = some s.name ∧ (fr.nested q.schema).aliasName = some s.aliasName) := by
  intro top
  refine ⟨by rw [Query.nested_frame], Query.frame_explicitAlias_eq_none_iff q _ _ _, fun unaliased count => ?_,
    fun s schema insert named =>
      ⟨Query.frame_aliasName_of_insert q _ _ _ schema insert named, Query.nested_aliasName q fr schema⟩⟩
  -- with no alias at the top, dropping it changes nothing
  have same : { top with explicitAlias := none } = top := by
    rw [← unaliased]
  rw [Query.nested_frame, same]

/-- A select of books is written the same way at the top and inside another query. -/
theorem select_of_books_nested_as_at_top (p : Painter) :
    let q : Query := { schema := some Books.schema, clauses := .select {} }
    q.writeStatement p (Books.frame.nested q.schema) =
      q.writeStatement p (q.frame Books.frame.catalog Books.frame.dialect Books.frame.clock) :=
  (nested_query_written_in_top_frame p Books.frame _).2.2.1 rfl false

/-- An insert of a book writes its `?TableAlias` as the table's name at the top and as the
table's alias inside another query. -/
theorem nested_insert_writes_other_alias :
    let q : Query := { schema := some Books.schema, clauses := .insert {} }
    ((q.frame Books.frame.catalog Books.frame.dialect Books.frame.clock).writeSlot .tableAlias).run.run #[] =
        (.ok (), #[.text (Dialect.postgres.quoteIdentifier "books")]) ∧
      ((Books.frame.nested q.schema).writeSlot .tableAlias).run.run #[] =
        (.ok (), #[.text (Dialect.postgres.quoteIdentifier "book")]) := by
  intro q
  have topAlias := Query.frame_aliasName_of_insert q Books.frame.catalog Books.frame.dialect Books.frame.clock
    rfl rfl (by decide)
  have nestedAlias := Query.nested_aliasName q Books.frame rfl
  constructor
  · simp only [Frame.writeSlot, topAlias]
    exact Frame.writeIdent_run _ _ _
  · simp only [Frame.writeSlot, nestedAlias]
    exact Frame.writeIdent_run _ _ _

end SqlMapper
