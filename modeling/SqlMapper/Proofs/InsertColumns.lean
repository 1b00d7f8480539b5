import Mathlib
import SqlMapper.Proofs.UpdateAssignments

/-!
# The columns an insert lists

An insert lists its model columns (all of them, or the ones named), less the
generated keys that no expression replaces and that every instance leaves none;
then every name given an expression that none of those columns has exactly,
case included.

Main statement: the listed columns and names are exactly those; no name is listed
twice when the listed columns have distinct names; and a name given an expression
is listed on its own exactly when no listed column has it exactly. So the
expression given for a listed column under another case lists that column a
second time, and one given for a column left out lists it after all. When the
names given expressions are each the exact name of a listed column or of no
column of the table, every name listed on its own names no column.
-/

set_option autoImplicit false

namespace SqlMapper

open SqlMapper.Schema SqlM

namespace Query

/-- An expression is given for a name exactly when an entry has it, case included. -/
theorem hasValue_givenEntries (entries : List (String × Fragment)) (name : String) :
    hasValue (givenEntries entries) name = entries.any (·.1 == name) := by
  simp [hasValue, givenEntries, Function.comp_def, Value.same_str]

/-- The names given expressions that no listed column has exactly. -/
def unlisted (listed : List Column) (entries : List (String × Fragment)) : List (String × Fragment) :=
  entries.filter fun e => !listed.any (·.name == e.1)

/-- The listed names are the columns', then the names given expressions that none of them has. -/
theorem insertNames_givenEntries (listed : List Column) (entries : List (String × Fragment)) :
    insertNames listed (givenEntries entries) =
      listed.map (fun col => Value.str col.name) ++ (unlisted listed entries).map fun e => Value.str e.1 := by
  simp only [insertNames, givenEntries, unlisted, List.map_map, List.filter_map]
  congr 2
  apply List.filter_congr
  intro e _
  simp only [Function.comp_def, List.any_map, Value.same_str]
  congr 2
  funext col
  rw [Bool.eq_iff_iff, beq_iff_eq, beq_iff_eq, eq_comm]

variable (q : Query) (c : InsertClauses) {s : TableSchema} {cols : List Column}

/-- A generated key is listed exactly when an expression is given for its exact name or an
instance gives it a value. -/
theorem generatedInEveryRow_givenEntries {entries : List (String × Fragment)} (given : c.values.entries = givenEntries entries)
    {col : Column} (generated : col.autoincrement = true) :
    q.generatedInEveryRow c col = false ↔
      entries.any (·.1 == col.name) = true ∨ ∃ inst ∈ q.instances, col.getValue inst ≠ .none := by
  simp only [generatedInEveryRow, given, hasValue_givenEntries, generated, Bool.true_and,
    Bool.and_eq_false_iff, Bool.not_eq_eq_eq_not, Bool.not_false, List.all_eq_false]
  exact or_congr Iff.rfl (exists_congr fun inst => and_congr_right fun _ => by simp)

/-- The inserted columns of a table's insert are its named ones, less those generated in every row. -/
theorem insertColumns_eq (schema : q.schema = some s) (selected : namedColumns s c.columns s.columns = .ok cols) :
    q.insertColumns c = .ok (cols.filter fun col => !q.generatedInEveryRow c col) := by
  simp only [insertColumns, schema, selected, bind, Except.bind]
  rfl

/-- A name given an expression is listed: under a listed column's name, or on its own. -/
theorem given_mem_insertNames (listed : List Column) {entries : List (String × Fragment)}
    {e : String × Fragment} (mem : e ∈ entries) :
    (Value.str e.1) ∈ insertNames listed (givenEntries entries) := by
  rw [insertNames_givenEntries]
  by_cases own : listed.any (·.name == e.1) = true
  · obtain ⟨col, colMem, named⟩ := List.any_eq_true.1 own
    exact List.mem_append_left _ (List.mem_map.2 ⟨col, colMem, by rw [beq_iff_eq.1 named]⟩)
  · exact List.mem_append_right _ (List.mem_map.2 ⟨e, List.mem_filter.2 ⟨mem, by simpa using own⟩, rfl⟩)

/-- No name is listed twice when the listed columns have distinct names and so do the names
given expressions. -/
theorem insertNames_nodup (listed : List Column) {entries : List (String × Fragment)}
    (distinct : (entries.map (·.1)).Nodup) (columnsDistinct : (listed.map (·.name)).Nodup) :
    (insertNames listed (givenEntries entries)).Nodup := by
  rw [insertNames_givenEntries, List.nodup_append]
  have strInjective : Function.Injective Value.str := fun _ _ same => Value.str.inj same
  refine ⟨?_, ?_, ?_⟩
  · simpa [List.map_map, Function.comp_def] using columnsDistinct.map strInjective
  · have unlistedDistinct : ((unlisted listed entries).map (·.1)).Nodup :=
      distinct.sublist (List.filter_sublist.map _)
    simpa [List.map_map, Function.comp_def] using unlistedDistinct.map strInjective
  · -- a name listed on its own is no listed column's
    intro a inColumns b inUnlisted same
    obtain ⟨col, colMem, rfl⟩ := List.mem_map.1 inColumns
    obtain ⟨e, kept, rfl⟩ := List.mem_map.1 inUnlisted
    simp only [unlisted, List.mem_filter, Bool.not_eq_eq_eq_not, Bool.not_true, List.any_eq_false,
      beq_iff_eq] at kept
    exact kept.2 col colMem (Value.str.inj same)

/-- When a name given an expression names a column of the table only as the exact name of a
listed column, every name listed on its own names no column. -/
theorem unlisted_names_no_column (listed : List Column) {entries : List (String × Fragment)}
    (exact : ∀ e ∈ entries, (s.column? e.1).isSome → ∃ col ∈ listed, col.name = e.1) :
    ∀ e ∈ unlisted listed entries, s.column? e.1 = none := by
  intro e kept
  simp only [unlisted, List.mem_filter, Bool.not_eq_eq_eq_not, Bool.not_true, List.any_eq_false,
    beq_iff_eq] at kept
  cases found : s.column? e.1 with
  | none => rfl
  | some col =>
    obtain ⟨listedCol, colMem, named⟩ := exact e kept.1 (by simp [found])
    exact absurd named (kept.2 listedCol colMem)

end Query

/-! ## Writing the rows -/

section Rows

variable (d : Dialect) (entries : List (String × Fragment)) (exprPieces : Fragment → List Piece)
  (param : Value → Column → Value)

/-- The pieces of a listed column in the row of an instance: the expression given for its
exact name, else `DEFAULT` (`NULL` where the dialect has no such keyword) where the row leaves
a generated key none, else the parameter of the row's value. -/
def columnEntryPieces (inst : Value) (col : Column) : List Piece :=
  match entries.lookup col.name with
  | some f => exprPieces f
  | none =>
    if Query.leavesDefault inst col then
      [Piece.text (if d.supportsDefaultKeyword then "DEFAULT" else "NULL")]
    else [Piece.value (param inst col)]

/-- The pieces of the row of an instance, in parentheses: an entry per listed column, then the
expressions given for names of no listed column. -/
def rowPieces (listed : List Column) (inst : Value) : List Piece :=
  [Piece.text "("] ++ List.intercalate [Piece.text ", "]
    (listed.map (columnEntryPieces d entries exprPieces param inst) ++
      (Query.unlisted listed entries).map fun e => exprPieces e.2) ++ [Piece.text ")"]

/-- The pieces of the listed names and of the rows of an insert. -/
def valuesPieces (listed : List Column) (rows : List Value) : List Piece :=
  [Piece.text " (", Piece.text (", ".intercalate
      ((listed.map (·.name) ++ (Query.unlisted listed entries).map (·.1)).map d.quoteIdentifier)),
    Piece.text ") VALUES "] ++
    List.intercalate [Piece.text ", "] (rows.map (rowPieces d entries exprPieces param listed))

end Rows

namespace Query

variable {p : Painter} {fr : Frame} {q : Query} {c : InsertClauses} {d : Dialect} {listed : List Column}
  {entries : List (String × Fragment)} {exprPieces : Fragment → List Piece} {param : Value → Column → Value}

/-- Among columns with distinct names, the first one with the name of a listed column is that
column. -/
theorem find?_named (distinctCols : (listed.map (·.name)).Nodup) {col : Column} (mem : col ∈ listed) :
    listed.find? (fun col' => Value.same (.str col'.name) (.str col.name)) = some col := by
  have found : (listed.find? fun col' => Value.same (.str col'.name) (.str col.name)).isSome := by
    rw [List.find?_isSome]
    exact ⟨col, mem, by simp [Value.same_str]⟩
  obtain ⟨col', first⟩ := Option.isSome_iff_exists.1 found
  have named := List.find?_some first
  rw [Value.same_str, beq_iff_eq] at named
  rw [first, List.inj_on_of_nodup_map distinctCols (List.mem_of_find?_eq_some first) mem named]

/-- The entry of a listed column in the row of an instance. -/
theorem writeInsertEntry_column (given : c.values.entries = givenEntries entries)
    (distinctCols : (listed.map (·.name)).Nodup) {col : Column} (mem : col ∈ listed) (inst : Value)
    (expr : ∀ f, entries.lookup col.name = some f → Writes (p.fragment fr f) (exprPieces f))
    (value : col.toParam fr.catalog d (rowValue inst col) = .ok (param inst col) ∧
      Writes (p.value fr (param inst col)) [.value (param inst col)]) :
    Writes (writeInsertEntry p fr c d listed inst (.str col.name)) (columnEntryPieces d entries exprPieces param inst col) := by
  unfold writeInsertEntry columnEntryPieces
  rw [given, valueFor?_givenEntries]
  cases found : entries.lookup col.name with
  | some f => exact expr f found
  | none =>
    simp only [find?_named distinctCols mem]
    by_cases generated : leavesDefault inst col = true
    · simp only [generated, if_true]
      refine fr.write_writes ?_
      split <;> decide
    · simp only [generated, Bool.false_eq_true, if_false]
      exact Writes.bind_returns (Returns.lift_ok value.1) value.2

/-- The entry of a name given an expression and listed on its own, in every row. -/
theorem writeInsertEntry_unlisted (given : c.values.entries = givenEntries entries) {e : String × Fragment}
    (mem : e ∈ entries) (inst : Value) (expr : Writes (p.fragment fr e.2) (exprPieces e.2)) :
    Writes (writeInsertEntry p fr c d listed inst (.str e.1)) (exprPieces e.2) := by
  unfold writeInsertEntry
  rw [given, valueFor?_givenEntries, lookup_of_mem (Given.names_nodup given) mem]
  exact expr

/-- A listed name: a listed column's, or a name given an expression on its own. -/
def listedName : Column ⊕ (String × Fragment) → Value
  | .inl col => .str col.name
  | .inr e => .str e.1

/-- The listed names are those of the listed columns, then those given expressions on their own. -/
theorem insertNames_listedNames (given : c.values.entries = givenEntries entries) :
    insertNames listed c.values.entries =
      (listed.map Sum.inl ++ (unlisted listed entries).map Sum.inr).map listedName := by
  rw [given, insertNames_givenEntries]
  simp [Function.comp_def, listedName]

/-- One row of an insert: its entries in parentheses, joined by commas. -/
theorem writeInsertRow_writes (given : c.values.entries = givenEntries entries)
    (distinctCols : (listed.map (·.name)).Nodup) (inst : Value)
    (exprs : ∀ e ∈ entries, Writes (p.fragment fr e.2) (exprPieces e.2))
    (values : ∀ col ∈ listed, col.toParam fr.catalog d (rowValue inst col) = .ok (param inst col) ∧
      Writes (p.value fr (param inst col)) [.value (param inst col)]) :
    Writes (writeInsertRow p fr c d listed (insertNames listed c.values.entries) inst)
      (rowPieces d entries exprPieces param listed inst) := by
  let piecesOf : Column ⊕ (String × Fragment) → List Piece
    | .inl col => columnEntryPieces d entries exprPieces param inst col
    | .inr e => exprPieces e.2
  have entriesWrite : ∀ x ∈ listed.map Sum.inl ++ (unlisted listed entries).map Sum.inr,
      Writes (writeInsertEntry p fr c d listed inst (listedName x)) (piecesOf x) := by
    intro x mem
    rcases List.mem_append.1 mem with inColumns | inUnlisted
    · obtain ⟨col, colMem, rfl⟩ := List.mem_map.1 inColumns
      exact writeInsertEntry_column given distinctCols colMem inst
        (fun f found => exprs _ (mem_of_lookup found)) (values col colMem)
    · obtain ⟨e, kept, rfl⟩ := List.mem_map.1 inUnlisted
      have given_e : e ∈ entries := (List.mem_filter.1 kept).1
      exact writeInsertEntry_unlisted given given_e inst (exprs e given_e)
  have joined := fr.writeJoined_writes (show ", " ≠ "" by decide) entriesWrite
  rw [← insertNames_listedNames given] at joined
  unfold writeInsertRow rowPieces
  simpa [piecesOf, List.map_append, List.map_map, Function.comp_def] using
    (fr.write_writes (by decide)).seq (joined.seq (fr.write_writes (by decide)))

/-- Quoted names joined by commas are never empty. -/
theorem quoted_names_ne_empty {names : List String} (nonempty : names ≠ []) :
    ", ".intercalate (names.map d.quoteIdentifier) ≠ "" := by
  obtain ⟨name, rest, rfl⟩ := List.exists_cons_of_ne_nil nonempty
  intro empty
  cases rest with
  | nil => exact d.quoteIdentifier_ne_empty name (by simpa using empty)
  | cons next more =>
    rw [List.map_cons, List.map_cons, String.intercalate_cons_cons] at empty
    exact d.quoteIdentifier_ne_empty name (String.append_eq_empty_iff.1 (String.append_eq_empty_iff.1 empty).1).1

/-- An insert that lists names writes them, quoted, then one row per instance or the one row of
defaults; an insert that lists no name writes the dialect's row of defaults alone, whatever the
number of instances. -/
theorem writeInsertValues_writes (given : c.values.entries = givenEntries entries)
    (distinctCols : (listed.map (·.name)).Nodup)
    (exprs : ∀ e ∈ entries, Writes (p.fragment fr e.2) (exprPieces e.2))
    (values : ∀ inst ∈ q.insertRows, ∀ col ∈ listed, col.toParam fr.catalog d (rowValue inst col) = .ok (param inst col) ∧
      Writes (p.value fr (param inst col)) [.value (param inst col)]) :
    Writes (q.writeInsertValues p fr c d listed (insertNames listed c.values.entries))
      (if insertNames listed c.values.entries = [] then [.text d.emptyInsertValues]
        else valuesPieces d entries exprPieces param listed q.insertRows) := by
  unfold writeInsertValues
  split
  · rename_i empty
    rw [if_pos (List.isEmpty_iff.1 empty)]
    refine fr.write_writes ?_
    cases d <;> simp [Dialect.emptyInsertValues]
  · rename_i listing
    have names : insertNames listed c.values.entries = _ := insertNames_listedNames given
    have strings : insertNames listed c.values.entries =
        (listed.map (·.name) ++ (unlisted listed entries).map (·.1)).map Value.str := by
      rw [names]
      simp [Function.comp_def, listedName]
    have quoted : Returns ((insertNames listed c.values.entries).mapM fun n =>
        (do pure (d.quoteIdentifier (← stringArg n "split")) : SqlM String))
        ((listed.map (·.name) ++ (unlisted listed entries).map (·.1)).map d.quoteIdentifier) := by
      rw [strings]
      exact Returns.mapM fun n _ => (Returns.lift_ok rfl).bind (Returns.pure _)
    have nonempty : listed.map (·.name) ++ (unlisted listed entries).map (·.1) ≠ [] := by
      intro none
      rw [none, List.map_nil] at strings
      exact listing (List.isEmpty_iff.2 strings)
    rw [if_neg fun none => listing (List.isEmpty_iff.2 none)]
    exact (fr.write_writes (by decide)).seq (Writes.bind_returns quoted
      ((fr.write_writes (quoted_names_ne_empty nonempty)).seq ((fr.write_writes (by decide)).seq
        (by simpa using fr.writeJoined_writes (f := id) (by decide) fun inst mem =>
          writeInsertRow_writes given distinctCols inst exprs (values inst mem)))))

/-- The rows of an insert bound to instances are the instances. -/
theorem insertRows_of_instances (bound : q.instances ≠ []) : q.insertRows = q.instances := by
  simp [insertRows, List.isEmpty_iff, bound]

/-- Without RETURNING fragments of its own, an insert returns the generated keys that no
expression replaces and that some instance leaves none, where the dialect can return them. -/
theorem insertReturning_default {s : TableSchema} (schema : q.schema = some s)
    (given : c.values.entries = givenEntries entries) (own : q.returning = []) :
    q.insertReturning c d =
      if d.supportsReturning then
        (s.pks.filter fun col => col.autoincrement && !(entries.any (·.1 == col.name)) &&
          q.instances.any fun i => (col.getValue i).isNone).map fun col => .ident col.name
      else [] := by
  simp only [insertReturning, own, generatedColumns, schema, given, hasValue_givenEntries]

/-- The parameters of a row come entry by entry. -/
theorem rowPieces_params (inst : Value) :
    (rowPieces d entries exprPieces param listed inst).filterMap Piece.value? =
      (listed.map (columnEntryPieces d entries exprPieces param inst) ++
        (unlisted listed entries).map fun e => exprPieces e.2).flatMap (·.filterMap Piece.value?) := by
  rw [rowPieces, List.filterMap_append, List.filterMap_append, filterMap_intercalate_text]
  simp [Piece.value?, List.filterMap_cons]

/-- The parameters of an insert's rows come row by row, and in each row entry by entry. -/
theorem valuesPieces_params (rows : List Value) :
    (valuesPieces d entries exprPieces param listed rows).filterMap Piece.value? =
      rows.flatMap fun inst =>
        (listed.map (columnEntryPieces d entries exprPieces param inst) ++
          (unlisted listed entries).map fun e => exprPieces e.2).flatMap (·.filterMap Piece.value?) := by
  rw [valuesPieces, List.filterMap_append, filterMap_intercalate_text, List.flatMap_map]
  simp only [rowPieces_params]
  simp [Piece.value?]

/-- A run of an insert that ends well writes its head, then its names and rows as
`writeInsertValues` writes them for the columns it inserts, then its conflict clause and its
RETURNING clause, of the fragments `insertReturning` gives. -/
theorem writeInsert_run (hp : p.Appends) (inserted : q.insertColumns c = .ok listed)
    (dialect : q.dialectIn fr = .ok d) {values : List Piece}
    (rows : Writes (q.writeInsertValues p fr c d listed (insertNames listed c.values.entries)) values)
    {init out : Array Piece} (ran : (q.writeInsert p fr c).run.run init = (.ok (), out)) :
    ∃ head conflict returning : List Piece,
      out.toList = init.toList ++ head ++ values ++ conflict ++ returning ∧
      Writes (writeReturningOf p fr d (q.insertReturning c d)) returning := by
  unfold writeInsert at ran
  rw [Returns.run_bind (Returns.lift_ok dialect)] at ran
  extract_lets written started checked at ran
  have writing : ∀ {s}, (written ()).run.run s = (.ok (), out) →
      ∃ head conflict returning : List Piece,
        out.toList = s.toList ++ head ++ values ++ conflict ++ returning ∧
        Writes (writeReturningOf p fr d (q.insertReturning c d)) returning := by
    intro s ran
    obtain ⟨_, into, -, ran⟩ := (fr.write_appends _).run_bind_ok ran
    obtain ⟨_, tables, -, ran⟩ := (Appends.discard (writeTables_appends hp fr q false)).run_bind_ok ran
    rw [Returns.run_bind (Returns.lift_ok inserted), Writes.run_bind rows] at ran
    obtain ⟨_, conflict, -, ran⟩ := (writeConflict_appends hp fr q c d _).run_bind_ok ran
    obtain ⟨returning, returns, rfl⟩ := (writeReturningOf_appends hp fr d _).writes_of_ok ran
    exact ⟨into.toList ++ tables.toList, conflict.toList, returning, by simp, returns⟩
  have starting : ∀ {s}, (started ()).run.run s = (.ok (), out) →
      ∃ head conflict returning : List Piece,
        out.toList = s.toList ++ head ++ values ++ conflict ++ returning ∧
        Writes (writeReturningOf p fr d (q.insertReturning c d)) returning := by
    intro s ran
    dsimp only [started] at ran
    obtain ⟨_, withs, -, ran⟩ := (writeWith_appends hp fr q).run_bind_ok ran
    obtain ⟨_, insert, -, ran⟩ := (fr.write_appends _).run_bind_ok ran
    have ignoring : ∃ ignore : List Piece, ∃ s', s' = s ++ withs ++ insert ++ ignore.toArray ∧
        (written ()).run.run s' = (.ok (), out) := by
      split at ran
      · obtain ⟨_, ignore, -, ran⟩ := (fr.write_appends _).run_bind_ok ran
        exact ⟨ignore.toList, _, by simp, ran⟩
      · exact ⟨[], _, by simp, ran⟩
    obtain ⟨ignore, s', rfl, ran⟩ := ignoring
    obtain ⟨head, conflict, returning, out_eq, returns⟩ := writing ran
    exact ⟨withs.toList ++ insert.toList ++ ignore ++ head, conflict, returning, by simp [out_eq], returns⟩
  have checking : ∀ {s}, (checked ()).run.run s = (.ok (), out) →
      ∃ head conflict returning : List Piece,
        out.toList = s.toList ++ head ++ values ++ conflict ++ returning ∧
        Writes (writeReturningOf p fr d (q.insertReturning c d)) returning := by
    intro s ran
    dsimp only [checked] at ran
    split at ran
    · exact absurd ran run_throw_bind
    · exact starting ran
  split at ran
  · exact absurd ran run_throw_bind
  · exact checking ran

end Query

/-! ## Main statement -/

/-- An insert into a table, with expressions given for names, lists exactly its named columns
less those generated in every row, then the names given expressions that none of them has
exactly; a name given an expression is always listed, on its own exactly when no listed column
has it; no name is listed twice when the listed columns have distinct names; when the names
given expressions name columns only as the exact names of listed ones, every name listed on its
own names no column. It writes the quoted names and then one row per instance (one row of
defaults when bound to none), each holding per listed column the expression given for it,
`DEFAULT` (or `NULL`) where the row leaves a generated key none, or the parameter of the row's
value, then the expressions given for names of no column; the parameters go row by row; an
insert that lists no name writes the dialect's row of defaults alone. Without RETURNING
fragments of its own it returns the generated keys that some row leaves to the database. -/
theorem insert_lists_names_exactly (q : Query) (c : InsertClauses) {s : TableSchema} {cols : List Column}
    {entries : List (String × Fragment)} (schema : q.schema = some s)
    (selected : Query.namedColumns s c.columns s.columns = .ok cols) (given : c.values.entries = givenEntries entries) :
    let listed := cols.filter fun col => !q.generatedInEveryRow c col
    let names := Query.insertNames listed c.values.entries
    q.insertColumns c = .ok listed ∧
      names = listed.map (fun col => .str col.name) ++ (Query.unlisted listed entries).map (fun e => .str e.1) ∧
      (∀ e ∈ entries, Value.str e.1 ∈ names ∧
        (e ∈ Query.unlisted listed entries ↔ ∀ col ∈ listed, col.name ≠ e.1)) ∧
      (∀ col ∈ cols, col.autoincrement = true →
        (col ∈ listed ↔ entries.any (·.1 == col.name) = true ∨
          ∃ inst ∈ q.instances, col.getValue inst ≠ .none)) ∧
      ((listed.map (·.name)).Nodup → names.Nodup) ∧
      ((∀ e ∈ entries, (s.column? e.1).isSome → ∃ col ∈ listed, col.name = e.1) →
        ∀ e ∈ Query.unlisted listed entries, s.column? e.1 = none) ∧
      (∀ (p : Painter) (fr : Frame) (d : Dialect) (exprPieces : Fragment → List Piece)
          (param : Value → Column → Value),
        (listed.map (·.name)).Nodup → (∀ e ∈ entries, Writes (p.fragment fr e.2) (exprPieces e.2)) →
        (∀ inst ∈ q.insertRows, ∀ col ∈ listed,
          col.toParam fr.catalog d (Query.rowValue inst col) = .ok (param inst col) ∧
            Writes (p.value fr (param inst col)) [.value (param inst col)]) →
        let values := if names = [] then [Piece.text d.emptyInsertValues]
          else valuesPieces d entries exprPieces param listed q.insertRows
        Writes (q.writeInsertValues p fr c d listed names) values ∧
          values.filterMap Piece.value? = (if names = [] then [] else q.insertRows.flatMap fun inst =>
            (listed.map (columnEntryPieces d entries exprPieces param inst) ++
              (Query.unlisted listed entries).map fun e => exprPieces e.2).flatMap (·.filterMap Piece.value?)) ∧
          (p.Appends → q.dialectIn fr = .ok d → ∀ init out, (q.writeInsert p fr c).run.run init = (.ok (), out) →
            ∃ head conflict returning : List Piece,
              out.toList = init.toList ++ head ++ values ++ conflict ++ returning ∧
                Writes (Query.writeReturningOf p fr d (q.insertReturning c d)) returning)) ∧
      (q.instances ≠ [] → q.insertRows = q.instances) ∧
      (∀ d : Dialect, q.returning = [] →
        q.insertReturning c d =
          if d.supportsReturning then
            (s.pks.filter fun col => col.autoincrement && !(entries.any (·.1 == col.name)) &&
              q.instances.any fun i => (col.getValue i).isNone).map fun col => .ident col.name
          else []) := by
  intro listed names
  have inserted : q.insertColumns c = .ok listed := Query.insertColumns_eq q c schema selected
  have named : names = Query.insertNames listed (givenEntries entries) := by simp only [names, given]
  refine ⟨inserted, named ▸ Query.insertNames_givenEntries listed entries,
    fun e mem => ⟨named ▸ Query.given_mem_insertNames listed mem, ?_⟩, fun col colMem generated => ?_,
    fun columnsDistinct => named ▸ Query.insertNames_nodup listed (Given.names_nodup given) columnsDistinct,
    Query.unlisted_names_no_column listed, ?_, fun bound => Query.insertRows_of_instances bound,
    fun d own => Query.insertReturning_default schema given own⟩
  · simp [Query.unlisted, mem]
  · rw [← Query.generatedInEveryRow_givenEntries q c given generated]
    simp [listed, colMem]
  · intro p fr d exprPieces param distinctCols exprs params values
    have rows := Query.writeInsertValues_writes given distinctCols exprs params
    refine ⟨rows, ?_, fun hp dialect init out ran => Query.writeInsert_run hp inserted dialect rows ran⟩
    by_cases none : names = []
    · simp [values, none, Piece.value?]
    · simp only [values, if_neg none]
      exact Query.valuesPieces_params _

namespace Books

/-- A key the database generates, read from the `id` attribute of a book. -/
def key : Column := { (default : Column) with name := "id", path := ["id"], pk := true, autoincrement := true }

/-- Books with a generated key `id` and a title. -/
def keyed : TableSchema := { schema with columns := [key, title] }

/-- A book with an `id` attribute. -/
def book (id : Option Value) : Value := .object default [("id", id)]

/-- An insert of books with expressions given for names. -/
def insert (values : Given) (instances : List Value) : Query :=
  { model := some (.list instances), schema := some keyed, clauses := .insert { values } }

/-- An expression given for the title is written in place of it, by its pieces. -/
def upperPieces : Fragment → List Piece := fun _ => [Piece.text "upper(", Piece.value (.str "y"), Piece.text ")"]

/-- An insert of books, one of them keyed, lists the key and the title. -/
theorem listed_columns (values : Given) {instances : List Value} (keyedBook : book (some (.int 5)) ∈ instances) :
    (keyed.columns.filter fun col => !(insert values instances).generatedInEveryRow { values } col) = [key, title] := by
  refine List.filter_eq_self.2 fun col mem => ?_
  simp only [keyed, List.mem_cons, List.not_mem_nil, or_false] at mem
  rcases mem with rfl | rfl
  · have valued : (insert values instances).instances.all (fun i => (key.getValue i).isNone) = false :=
      List.all_eq_false.2 ⟨_, keyedBook, by decide⟩
    simp [Query.generatedInEveryRow, valued]
  · rfl

/-- An insert of books, one of them keyed, inserts the key and the title. -/
theorem insert_columns (values : Given) {instances : List Value} (keyedBook : book (some (.int 5)) ∈ instances) :
    (insert values instances).insertColumns { values } = .ok [key, title] :=
  (Query.insertColumns_eq _ _ rfl rfl).trans (congrArg Except.ok (listed_columns values keyedBook))

end Books

/-- An insert of a book keyed 5 and a book with no key, the title given `upper`, lists the key
and the title, and writes the first key as a parameter and the second as `DEFAULT`. -/
theorem insert_of_books_writes_default_key :
    let q := Books.insert (Books.given "title") [Books.book (some (.int 5)), Books.book none]
    q.insertColumns { values := Books.given "title" } = .ok [Books.key, Books.title] ∧
      Writes (q.writeInsertValues (Painter.upTo 2) Books.frame { values := Books.given "title" } .postgres
          [Books.key, Books.title] (Query.insertNames [Books.key, Books.title] (Books.given "title").entries))
        [Piece.text " (", Piece.text "\"id\", \"title\"", Piece.text ") VALUES ",
          Piece.text "(", Piece.value (.int 5), Piece.text ", ",
            Piece.text "upper(", Piece.value (.str "y"), Piece.text ")", Piece.text ")", Piece.text ", ",
          Piece.text "(", Piece.text "DEFAULT", Piece.text ", ",
            Piece.text "upper(", Piece.value (.str "y"), Piece.text ")", Piece.text ")"] := by
  intro q
  have inserted := insert_lists_names_exactly q { values := Books.given "title" } (s := Books.keyed) rfl rfl
    (Books.given_entries "title")
  dsimp only at inserted
  rw [Books.listed_columns _ List.mem_cons_self] at inserted
  obtain ⟨columns, -, -, -, -, -, render, -, -⟩ := inserted
  have names : Query.insertNames [Books.key, Books.title] (Books.given "title").entries = [.str "id", .str "title"] := by
    rw [Books.given_entries, Query.insertNames_givenEntries]
    rfl
  have rows : q.insertRows = [Books.book (some (.int 5)), Books.book none] := rfl
  have params : ∀ inst ∈ q.insertRows, ∀ col ∈ [Books.key, Books.title],
      col.toParam Books.frame.catalog .postgres (Query.rowValue inst col) = .ok (Query.rowValue inst col) ∧
        Writes ((Painter.upTo 2).value Books.frame (Query.rowValue inst col)) [.value (Query.rowValue inst col)] := by
    intro inst mem col colMem
    rw [rows] at mem
    simp only [List.mem_cons, List.not_mem_nil, or_false] at mem colMem
    rcases mem with rfl | rfl <;> rcases colMem with rfl | rfl <;>
      exact ⟨rfl, value_param_writes Books.frame 1 rfl⟩
  have exprs : ∀ e ∈ [("title", Books.upper)], Writes ((Painter.upTo 2).fragment Books.frame e.2) (Books.upperPieces e.2) := by
    intro e mem
    rw [List.mem_singleton] at mem
    subst mem
    exact Books.upper_writes 0
  have quoted : ", ".intercalate (([Books.key, Books.title].map (·.name) ++
      (Query.unlisted [Books.key, Books.title] [("title", Books.upper)]).map (·.1)).map Dialect.postgres.quoteIdentifier) =
        "\"id\", \"title\"" := by
    decide +kernel
  have pieces : valuesPieces .postgres [("title", Books.upper)] Books.upperPieces (fun inst col => Query.rowValue inst col)
      [Books.key, Books.title] [Books.book (some (.int 5)), Books.book none] =
        [Piece.text " (", Piece.text "\"id\", \"title\"", Piece.text ") VALUES ",
          Piece.text "(", Piece.value (.int 5), Piece.text ", ",
            Piece.text "upper(", Piece.value (.str "y"), Piece.text ")", Piece.text ")", Piece.text ", ",
          Piece.text "(", Piece.text "DEFAULT", Piece.text ", ",
            Piece.text "upper(", Piece.value (.str "y"), Piece.text ")", Piece.text ")"] := by
    simp only [valuesPieces, quoted]
    simp [rowPieces, columnEntryPieces, Query.unlisted, Books.key, Books.title, Query.leavesDefault, Query.rowValue,
      Books.book, Column.getValue, Column.attributeOf, Books.upperPieces, Dialect.supportsDefaultKeyword, List.lookup]
  obtain ⟨writes, -, -⟩ := render (Painter.upTo 2) Books.frame .postgres Books.upperPieces _ (by decide) exprs params
  rw [names, if_neg (List.cons_ne_nil _ _), rows, pieces] at writes
  rw [names]
  exact ⟨columns, writes⟩

/-- An expression given for a listed column under another case lists the column a second time. -/
theorem expression_for_other_case_listed_twice :
    (Books.insert (Books.given "ID") [Books.book (some (.int 5))]).insertColumns { values := Books.given "ID" } =
        .ok [Books.key, Books.title] ∧
      Query.insertNames [Books.key, Books.title] (Books.given "ID").entries =
        [.str "id", .str "title", .str "ID"] := by
  refine ⟨Books.insert_columns _ List.mem_cons_self, ?_⟩
  rw [Books.given_entries, Query.insertNames_givenEntries]
  have apart : Query.unlisted [Books.key, Books.title] [("ID", Books.upper)] = [("ID", Books.upper)] := rfl
  rw [apart]
  rfl

end SqlMapper
