import Mathlib
import SqlMapper.Proofs.WrittenPieces

/-!
# The assignments of an update

An update bound to an instance and given no assignments of its own assigns its
model columns: the data columns, or the ones named, each with the expression
given for its exact name, else with the instance's value, which is left out when
zeros are left out and the value is none or its type's zero. An expression given
for a name that no assigned column has is then added, but only when the name is
no column of the table at all.

The expressions are given for distinct names: `value` puts an expression in the
place of the one given for an equal name, so a `Given` holds one per name.

Main statement: the assignments are exactly those, in that order; an expression
given for a name is assigned to it exactly when the name is that of an assigned
column or of no column of the table; and no column is assigned twice when the
assigned columns have distinct names. The SET clause writes each assignment as the
quoted name, ` = ` and the expression or the parameter of the instance's value,
joined by commas, and the update writes it before its WHERE clause, so the
parameters of the expressions come before those of the conditions. So an
expression given for a column under another case, for a key column or for a column
left unassigned is dropped, and the column named under another case keeps the
instance's value.
-/

set_option autoImplicit false

namespace SqlMapper

open SqlMapper.Schema SqlM

/-- Strings compare as strings. -/
theorem Value.same_str (a b : String) : Value.same (.str a) (.str b) = (a == b) := by
  unfold Value.same
  rw [Value.sameUpTo.eq_def]
  rfl

@[simp] theorem Value.isNone_eq_true {v : Value} : v.isNone = true ↔ v = .none := by
  cases v <;> simp [Value.isNone]

/-- Expressions given for names, as an update or an insert keeps them. -/
def givenEntries (entries : List (String × Fragment)) : List (Value × Fragment) :=
  entries.map fun e => (.str e.1, e.2)

@[simp] theorem givenEntries_nil : givenEntries [] = [] := rfl

@[simp] theorem givenEntries_cons (e : String × Fragment) (rest : List (String × Fragment)) :
    givenEntries (e :: rest) = (.str e.1, e.2) :: givenEntries rest := rfl

theorem Query.valueFor?_givenEntries (entries : List (String × Fragment)) (name : String) :
    Query.valueFor? (givenEntries entries) (.str name) = entries.lookup name := by
  induction entries with
  | nil => rfl
  | cons e rest ih =>
    obtain ⟨key, f⟩ := e
    simp only [Query.valueFor?, givenEntries, List.map_cons, List.find?_cons, Value.same_str,
      List.lookup] at ih ⊢
    by_cases same : key = name
    · subst same
      simp
    · rw [beq_false_of_ne same, beq_false_of_ne (Ne.symm same)]
      exact ih

/-- Names given expressions as strings are distinct, since a `Given` holds one expression per
name and distinct strings are different values. -/
theorem Given.names_nodup {g : Given} {entries : List (String × Fragment)} (given : g.entries = givenEntries entries) :
    (entries.map (·.1)).Nodup := by
  have distinct := g.distinct
  rw [given, DistinctKeys, givenEntries, List.pairwise_map] at distinct
  rw [List.Nodup, List.pairwise_map]
  refine distinct.imp fun {a b} differ same => ?_
  rw [Value.same_str, same, beq_self_eq_true] at differ
  cases differ

/-- The expression a name is given is given for it. -/
theorem mem_of_lookup {entries : List (String × Fragment)} {name : String} {f : Fragment}
    (found : entries.lookup name = some f) : (name, f) ∈ entries := by
  induction entries with
  | nil => cases found
  | cons e rest ih =>
    by_cases same : name = e.1
    · subst same
      simp only [List.lookup, beq_self_eq_true, Option.some.injEq] at found
      subst found
      exact List.mem_cons_self
    · simp only [List.lookup, beq_false_of_ne same] at found
      exact List.mem_cons_of_mem _ (ih found)

/-- The expression of a name given once is the one given for it. -/
theorem lookup_of_mem {entries : List (String × Fragment)} (distinct : (entries.map (·.1)).Nodup)
    {e : String × Fragment} (mem : e ∈ entries) : entries.lookup e.1 = some e.2 := by
  induction entries with
  | nil => simp at mem
  | cons head rest ih =>
    simp only [List.map_cons, List.nodup_cons, List.mem_map] at distinct
    rcases List.mem_cons.1 mem with rfl | mem
    · simp [List.lookup]
    · have differ : e.1 ≠ head.1 := fun same => distinct.1 ⟨e, mem, same⟩
      simp [List.lookup, beq_false_of_ne differ, ih distinct.2 mem]

namespace UpdateClauses

/-- The assignment of an expression given for a name that is no assigned column. -/
def givenAssignment (e : String × Fragment) : String × Option Fragment × Option Column := (e.1, some e.2, none)

/-- The expressions given for names that no assigned column has and no column of the table. -/
def unmatched (s : TableSchema) (cols : List Column) (entries : List (String × Fragment)) :
    List (String × Fragment) :=
  entries.filter fun e => !(cols.any (·.name == e.1)) && (s.column? e.1).isNone

/-- The assignments an update makes: its columns', then those of expressions given for no column. -/
def expectedAssignments (c : UpdateClauses) (cat : Catalog) (inst : Value) (s : TableSchema)
    (cols : List Column) (entries : List (String × Fragment)) : List (String × Option Fragment × Option Column) :=
  cols.filterMap (c.columnAssignment cat inst) ++ (unmatched s cols entries).map givenAssignment

variable {c : UpdateClauses} {cat : Catalog} {inst : Value} {s : TableSchema}

/-- An assigned column is assigned under its own name. -/
theorem columnAssignment_name {col : Column} {a : String × Option Fragment × Option Column}
    (made : c.columnAssignment cat inst col = some a) : a.1 = col.name := by
  unfold columnAssignment at made
  split at made
  · cases made; rfl
  · simp only [Option.ite_none_left_eq_some, Option.some.injEq] at made
    rw [← made.2]

/-- A column with an expression given for its name is assigned that expression. -/
theorem columnAssignment_of_lookup {entries : List (String × Fragment)} (given : c.values.entries = givenEntries entries)
    {col : Column} {f : Fragment} (found : entries.lookup col.name = some f) :
    c.columnAssignment cat inst col = some (col.name, some f, some col) := by
  rw [columnAssignment, given, Query.valueFor?_givenEntries, found]

/-- Adding a given expression whose name is a string: it is added when no assignment has its
name and it names no column. -/
theorem addGiven_str (out : List (String × Option Fragment × Option Column)) (e : String × Fragment) :
    addGiven s out (.str e.1, e.2) =
      .ok (if !(out.any (·.1 == e.1)) && (s.column? e.1).isNone then out ++ [givenAssignment e] else out) := by
  unfold addGiven
  simp only [Value.same_str]
  cases known : out.any (·.1 == e.1)
  · simp only [Bool.false_eq_true, if_false, stringArg, pure_bind]
    cases found : (s.column? e.1).isNone <;> rfl
  · rfl

/-- Adding expressions given for distinct names, one after another: each is added exactly
when no assignment before has its name and it names no column. The induction is on the
expressions; distinct names keep the ones added from hiding the later ones. -/
theorem foldlM_addGiven (entries : List (String × Fragment)) (distinct : (entries.map (·.1)).Nodup)
    (out : List (String × Option Fragment × Option Column)) :
    (givenEntries entries).foldlM (addGiven s) out =
      .ok (out ++ (entries.filter fun e => !(out.any (·.1 == e.1)) && (s.column? e.1).isNone).map
        givenAssignment) := by
  induction entries generalizing out with
  | nil => simp; rfl
  | cons e rest ih =>
    simp only [List.map_cons, List.nodup_cons, List.mem_map] at distinct
    have laterNames : ∀ r ∈ rest, e.1 ≠ r.1 := fun r mem same => distinct.1 ⟨r, mem, same.symm⟩
    simp only [givenEntries_cons, List.foldlM_cons, addGiven_str, bind, Except.bind]
    by_cases kept : (!(out.any (·.1 == e.1)) && (s.column? e.1).isNone) = true
    · -- the assignment added carries a name that no later expression has
      have unseen : ∀ r ∈ rest, (out ++ [givenAssignment e]).any (·.1 == r.1) = out.any (·.1 == r.1) := by
        intro r mem
        simp only [List.any_append, List.any_cons, List.any_nil, givenAssignment,
          beq_false_of_ne (laterNames r mem), Bool.or_false]
      rw [if_pos kept, ih distinct.2, List.filter_congr (fun r mem => by rw [unseen r mem])]
      simp [kept]
    · rw [if_neg kept, ih distinct.2]
      simp [kept]

/-- A given name is among the assigned columns' exactly when one of them has it. -/
theorem any_columnAssignments {entries : List (String × Fragment)} (given : c.values.entries = givenEntries entries)
    (cols : List Column) {e : String × Fragment} (mem : e ∈ entries) :
    (cols.filterMap (c.columnAssignment cat inst)).any (·.1 == e.1) = cols.any (·.name == e.1) := by
  apply Bool.eq_iff_iff.2
  simp only [List.any_eq_true, List.mem_filterMap, beq_iff_eq]
  constructor
  · rintro ⟨a, ⟨col, colMem, made⟩, named⟩
    exact ⟨col, colMem, (columnAssignment_name made).symm.trans named⟩
  · rintro ⟨col, colMem, named⟩
    have found : entries.lookup col.name = some e.2 := by
      rw [named]
      exact lookup_of_mem (Given.names_nodup given) mem
    exact ⟨_, ⟨col, colMem, columnAssignment_of_lookup given found⟩, named⟩

/-- The names the assigned columns are assigned under, in order, are some of theirs. -/
theorem columnAssignments_names_sublist (cols : List Column) :
    List.Sublist ((cols.filterMap (c.columnAssignment cat inst)).map (·.1)) (cols.map (·.name)) := by
  induction cols with
  | nil => simp
  | cons col rest ih =>
    rw [List.filterMap_cons]
    cases made : c.columnAssignment cat inst col with
    | none => exact ih.cons _
    | some a =>
      rw [List.map_cons, List.map_cons, columnAssignment_name made]
      exact ih.cons_cons _

variable {entries : List (String × Fragment)} {cols : List Column}

/-- An expression given for a name is assigned to it exactly when the name is that of an
assigned column or of no column of the table. -/
theorem given_mem_expected_iff (given : c.values.entries = givenEntries entries)
    {e : String × Fragment} (mem : e ∈ entries) :
    (e.1, some e.2) ∈ (c.expectedAssignments cat inst s cols entries).map (fun a => (a.1, a.2.1)) ↔
      e.1 ∈ cols.map (·.name) ∨ s.column? e.1 = none := by
  simp only [expectedAssignments, unmatched, List.map_append, List.mem_append, List.mem_map,
    List.mem_filterMap, List.mem_filter, givenAssignment]
  constructor
  · rintro (⟨a, ⟨col, colMem, made⟩, named⟩ | ⟨a, ⟨e', ⟨-, kept⟩, rfl⟩, same⟩)
    · -- assigned with an assigned column, under its name
      exact .inl ⟨col, colMem, (columnAssignment_name made).symm.trans (congrArg Prod.fst named)⟩
    · -- added as an expression given for no column
      simp only [Prod.mk.injEq] at same
      simp only [Bool.and_eq_true, Option.isNone_iff_eq_none] at kept
      exact .inr (same.1 ▸ kept.2)
  · intro named
    by_cases assigned : ∃ col ∈ cols, col.name = e.1
    · obtain ⟨col, colMem, colNamed⟩ := assigned
      have found : entries.lookup col.name = some e.2 := by
        rw [colNamed]
        exact lookup_of_mem (Given.names_nodup given) mem
      exact .inl ⟨_, ⟨col, colMem, columnAssignment_of_lookup given found⟩, by rw [colNamed]⟩
    · have unmatchedColumn : cols.any (·.name == e.1) = false := by
        simpa using assigned
      have noColumn : s.column? e.1 = none := named.resolve_left assigned
      exact .inr ⟨_, ⟨e, ⟨mem, by simp [unmatchedColumn, noColumn]⟩, rfl⟩, rfl⟩

/-- A column assigned the instance's value is an assigned column with no expression given
for its exact name. -/
theorem expected_value_assignment {entries : List (String × Fragment)} (given : c.values.entries = givenEntries entries)
    {n : String} {col : Column} (mem : (n, none, some col) ∈ c.expectedAssignments cat inst s cols entries) :
    col ∈ cols ∧ n = col.name ∧ entries.lookup n = none := by
  simp only [expectedAssignments, List.mem_append, List.mem_map, List.mem_filterMap, givenAssignment] at mem
  rcases mem with ⟨col', colMem, made⟩ | ⟨e, -, given'⟩
  · unfold columnAssignment at made
    rw [given, Query.valueFor?_givenEntries] at made
    split at made
    · simp at made
    · rename_i unfound
      simp only [Option.ite_none_left_eq_some, Option.some.injEq, Prod.mk.injEq] at made
      obtain ⟨-, rfl, -, rfl⟩ := made
      exact ⟨colMem, rfl, unfound⟩
  · simp at given'

/-- No name is assigned twice when the assigned columns have distinct names, since the
expressions are given for distinct names too. -/
theorem expected_names_nodup (given : c.values.entries = givenEntries entries)
    (columnsDistinct : (cols.map (·.name)).Nodup) :
    ((c.expectedAssignments cat inst s cols entries).map (·.1)).Nodup := by
  have columnPart : ((cols.filterMap (c.columnAssignment cat inst)).map (·.1)).Nodup :=
    columnsDistinct.sublist (columnAssignments_names_sublist cols)
  have givenNames : ((unmatched s cols entries).map givenAssignment).map (·.1) = (unmatched s cols entries).map (·.1) := by
    simp [givenAssignment, Function.comp_def]
  have givenPart : ((unmatched s cols entries).map (·.1)).Nodup :=
    (Given.names_nodup given).sublist (List.filter_sublist.map _)
  rw [expectedAssignments, List.map_append, List.nodup_append, givenNames]
  refine ⟨columnPart, givenPart, ?_⟩
  -- the names added are of no assigned column, the others are
  intro a inColumns b inGiven same
  have assigned : a ∈ cols.map (·.name) := (columnAssignments_names_sublist cols).subset inColumns
  obtain ⟨e, kept, rfl⟩ := List.mem_map.1 inGiven
  simp only [unmatched, List.mem_filter, Bool.and_eq_true, Bool.not_eq_eq_eq_not, Bool.not_true,
    List.any_eq_false, beq_iff_eq] at kept
  obtain ⟨col, colMem, rfl⟩ := List.mem_map.1 assigned
  exact kept.2.1 col colMem same

end UpdateClauses

namespace Query

open UpdateClauses

variable (fr : Frame) (q : Query) (c : UpdateClauses) {s : TableSchema} {inst : Value} {rest : List Value}
  {cols : List Column} {entries : List (String × Fragment)}

/-- The assignments of an update bound to an instance. -/
theorem assignments_eq_expected (schema : q.schema = some s) (bound : q.instances = inst :: rest)
    (selected : c.assignedColumns s = .ok cols) (given : c.values.entries = givenEntries entries) :
    q.assignments fr c = .ok (c.expectedAssignments fr.catalog inst s cols entries) := by
  simp only [assignments, schema, bound, selected, bind, Except.bind]
  rw [given, foldlM_addGiven entries (Given.names_nodup given), expectedAssignments, unmatched,
    List.filter_congr (fun e mem => by rw [any_columnAssignments given cols mem])]

end Query

/-! ## Writing the assignments -/

/-- The pieces of an assignment: the quoted name and ` = `, then the pieces of the expression
given for it, or the parameter of its column's value. -/
def assignmentPieces (d : Dialect) (exprPieces : Fragment → List Piece) (param : Column → Value) :
    String × Option Fragment × Option Column → List Piece
  | (name, some f, _) => [Piece.text (d.quoteIdentifier name), Piece.text " = "] ++ exprPieces f
  | (name, none, some col) => [Piece.text (d.quoteIdentifier name), Piece.text " = ", Piece.value (param col)]
  | (name, none, none) => [Piece.text (d.quoteIdentifier name), Piece.text " = "]

namespace UpdateClauses

variable {c : UpdateClauses} {cat : Catalog} {inst : Value} {s : TableSchema} {cols : List Column}
  {entries : List (String × Fragment)}

/-- An expression an update assigns is one given for a name. -/
theorem expected_expression_given (given : c.values.entries = givenEntries entries)
    {a : String × Option Fragment × Option Column} (mem : a ∈ c.expectedAssignments cat inst s cols entries)
    {f : Fragment} (assigned : a.2.1 = some f) : ∃ e ∈ entries, e.2 = f := by
  simp only [expectedAssignments, List.mem_append, List.mem_map, List.mem_filterMap] at mem
  rcases mem with ⟨col, -, made⟩ | ⟨e, kept, rfl⟩
  · unfold columnAssignment at made
    rw [given, Query.valueFor?_givenEntries] at made
    split at made
    · rename_i g found
      cases made
      cases assigned
      exact ⟨_, mem_of_lookup found, rfl⟩
    · simp only [Option.ite_none_left_eq_some, Option.some.injEq] at made
      rw [← made.2] at assigned
      cases assigned
  · cases assigned
    exact ⟨e, (List.mem_filter.1 kept).1, rfl⟩

end UpdateClauses

namespace Query

variable {p : Painter} {fr : Frame} {q : Query} {c : UpdateClauses} {d : Dialect}
  {exprPieces : Fragment → List Piece} {param : Column → Value}

/-- An assignment writes its quoted name, ` = `, then its expression's pieces or its parameter. -/
theorem writeAssignment_writes (dialect : q.dialectIn fr = .ok d) (a : String × Option Fragment × Option Column)
    (expr : ∀ f, a.2.1 = some f → Writes (p.fragment fr f) (exprPieces f))
    (value : ∀ col, a.2.1 = none → a.2.2 = some col →
      col.toParam fr.catalog d (col.getValue (q.instances.head?.getD .none)) = .ok (param col) ∧
        Writes (p.value fr (param col)) [.value (param col)]) :
    Writes (q.writeAssignment p fr a) (assignmentPieces fr.dialect exprPieces param a) := by
  obtain ⟨name, f, col⟩ := a
  have named : ∀ {m : SqlM Unit} {ps : List Piece}, Writes m ps →
      Writes (fr.writeIdent name >>= fun _ => fr.write " = " >>= fun _ => m)
        ([Piece.text (fr.dialect.quoteIdentifier name), Piece.text " = "] ++ ps) := fun rest =>
    (fr.writeIdent_writes name).seq ((fr.write_writes (by decide)).seq rest)
  unfold writeAssignment
  match f, col with
  | some f, _ => exact named (expr f rfl)
  | none, some col =>
    obtain ⟨converted, written⟩ := value col rfl rfl
    exact named (Writes.bind_returns (k := fun d => _ >>= p.value fr) (Returns.lift_ok dialect)
      (Writes.bind_returns (Returns.lift_ok converted) written))
  | none, none => exact named Writes.pure

/-- Without assignments of its own, an update writes the assignments it makes, joined by
commas. -/
theorem writeAssignments_writes {parts : List (String × Option Fragment × Option Column)}
    {ps : String × Option Fragment × Option Column → List Piece} (unset : c.sets = [])
    (assigned : q.assignments fr c = .ok parts) (nonempty : parts ≠ [])
    (each : ∀ a ∈ parts, Writes (q.writeAssignment p fr a) (ps a)) :
    Writes (q.writeAssignments p fr c) (List.intercalate [.text ", "] (parts.map ps)) := by
  have filled : parts.isEmpty = false := List.isEmpty_eq_false_iff.2 nonempty
  unfold writeAssignments
  simp only [unset, List.isEmpty_nil, Bool.not_true, Bool.false_eq_true, if_false]
  refine Writes.bind_returns (Returns.lift_ok assigned) ?_
  simp only [filled, Bool.false_eq_true, if_false]
  simpa using fr.writeJoined_writes (f := id) (by decide) each

/-- A run of an update that ends well writes its target, ` SET `, its assignments, the other
tables, its WHERE clause and its RETURNING clause, in that order. -/
theorem writeUpdate_run (hp : p.Appends) {set : List Piece} (assigns : Writes (q.writeAssignments p fr c) set)
    {init out : Array Piece} (ran : (q.writeUpdate p fr c).run.run init = (.ok (), out)) :
    ∃ target froms wherePieces returning : List Piece,
      out.toList = init.toList ++ target ++ Piece.text " SET " :: set ++ froms ++ wherePieces ++ returning ∧
      Writes (q.writeWhere p fr true) wherePieces := by
  unfold writeUpdate at ran
  obtain ⟨tables, target, -, ran⟩ := (writeUpdateTarget_appends hp fr q).run_bind_ok ran
  rw [(fr.write_writes (by decide : " SET " ≠ "")).run_bind, assigns.run_bind] at ran
  extract_lets finishing at ran
  have finished : ∀ {s}, (finishing ()).run.run s = (.ok (), out) →
      ∃ wherePieces returning : List Piece, out.toList = s.toList ++ wherePieces ++ returning ∧
        Writes (q.writeWhere p fr true) wherePieces := by
    intro s finishes
    obtain ⟨_, wherePieces, wheres, finishes⟩ := (writeWhere_appends hp fr q true).run_bind_ok finishes
    obtain ⟨returning, -, rfl⟩ := (writeReturning_appends hp fr q).writes_of_ok finishes
    exact ⟨wherePieces.toList, returning, by simp, fun s' => by simpa using wheres s'⟩
  split at ran
  · obtain ⟨_, fromText, -, ran⟩ := (fr.write_appends _).run_bind_ok ran
    obtain ⟨_, others, -, ran⟩ := (hp.list fr _ _).run_bind_ok ran
    obtain ⟨wherePieces, returning, written, wheres⟩ := finished ran
    exact ⟨target.toList, fromText.toList ++ others.toList, wherePieces, returning, by simp [written], wheres⟩
  · obtain ⟨wherePieces, returning, written, wheres⟩ := finished ran
    exact ⟨target.toList, [], wherePieces, returning, by simp [written], wheres⟩

end Query

/-! ## Main statement -/

/-- An update bound to an instance and given no assignments of its own makes exactly its
columns' assignments and then those of the expressions given for no column; an expression
given for a name is assigned to it exactly when the name is that of an assigned column or of
no column of the table; a column assigned the instance's value has no expression given for
its exact name; no name is assigned twice when the assigned columns have distinct names; and
its SET clause writes each assignment as the quoted name, ` = ` and the expression given or
the parameter of the instance's value, joined by commas, before the WHERE clause. -/
theorem update_assignments_exactly (fr : Frame) (q : Query) (c : UpdateClauses) {s : TableSchema}
    {inst : Value} {rest : List Value} {cols : List Column} {entries : List (String × Fragment)}
    (schema : q.schema = some s) (bound : q.instances = inst :: rest)
    (selected : c.assignedColumns s = .ok cols) (given : c.values.entries = givenEntries entries) :
    let expected := c.expectedAssignments fr.catalog inst s cols entries
    q.assignments fr c = .ok expected ∧
      (∀ e ∈ entries, (e.1, some e.2) ∈ expected.map (fun a => (a.1, a.2.1)) ↔
        e.1 ∈ cols.map (·.name) ∨ s.column? e.1 = none) ∧
      (∀ n col, (n, none, some col) ∈ expected → col ∈ cols ∧ n = col.name ∧ entries.lookup n = none) ∧
      ((cols.map (·.name)).Nodup → (expected.map (·.1)).Nodup) ∧
      ∀ (p : Painter) (d : Dialect) (exprPieces : Fragment → List Piece) (param : Column → Value),
        c.sets = [] → expected ≠ [] → q.dialectIn fr = .ok d →
        (∀ e ∈ entries, Writes (p.fragment fr e.2) (exprPieces e.2)) →
        (∀ col ∈ cols, col.toParam fr.catalog d (col.getValue inst) = .ok (param col) ∧
          Writes (p.value fr (param col)) [.value (param col)]) →
        let set := List.intercalate [.text ", "] (expected.map (assignmentPieces fr.dialect exprPieces param))
        Writes (q.writeAssignments p fr c) set ∧
          (p.Appends → ∀ init out, (q.writeUpdate p fr c).run.run init = (.ok (), out) →
            ∃ target froms wherePieces returning : List Piece,
              out.toList = init.toList ++ target ++ Piece.text " SET " :: set ++ froms ++ wherePieces ++ returning ∧
              Writes (q.writeWhere p fr true) wherePieces) := by
  intro expected
  have assigned := Query.assignments_eq_expected fr q c schema bound selected given
  refine ⟨assigned, fun _ mem => UpdateClauses.given_mem_expected_iff given mem,
    fun _ _ mem => UpdateClauses.expected_value_assignment given mem,
    UpdateClauses.expected_names_nodup given, fun p d exprPieces param unset nonempty dialect exprs params => ?_⟩
  have instance_head : q.instances.head?.getD .none = inst := by simp [bound]
  have each : ∀ a ∈ expected, Writes (q.writeAssignment p fr a) (assignmentPieces fr.dialect exprPieces param a) :=
    fun a mem => Query.writeAssignment_writes dialect a
      (fun f some => by
        obtain ⟨e, given_e, rfl⟩ := UpdateClauses.expected_expression_given given mem some
        exact exprs e given_e)
      (fun col none some => by
        obtain ⟨name, f, col'⟩ := a
        simp only at none some
        subst none some
        rw [instance_head]
        exact params col (UpdateClauses.expected_value_assignment given mem).1)
  have assigns := Query.writeAssignments_writes unset assigned nonempty each
  exact ⟨assigns, fun hp _ _ ran => Query.writeUpdate_run hp assigns ran⟩

namespace Books

/-- The title of a book. -/
def title : Column := { (default : Column) with name := "title" }

/-- Books with a key `id` and a title. -/
def schema : TableSchema := { (default : TableSchema) with
  name := "books", aliasName := "book",
  columns := [{ (default : Column) with name := "id", pk := true }, title] }

/-- An update of a book with expressions given for names. -/
def update (values : Given) : Query :=
  { model := some (.int 1), schema := some schema, clauses := .update { values } }

/-- A frame with no table. -/
def frame : Frame := { catalog := default, dialect := .postgres, clock := default }

/-- An expression given for the title. -/
def upper : Fragment := .template "upper(?)" [.str "y"] ""

/-- `upper` given for a name, as `value` gives it. -/
def given (name : String) : Given := Given.empty.set (.str name) upper

theorem dataColumns : schema.dataColumns = [title] := rfl

theorem given_entries (name : String) : (given name).entries = givenEntries [(name, upper)] := rfl

/-- The painter writes `upper` as its text around the parameter it holds. -/
theorem upper_writes (n : Nat) :
    Writes ((Painter.upTo (n + 2)).fragment frame upper)
      [Piece.text "upper(", Piece.value (.str "y"), Piece.text ")"] := by
  have tokens : Text.tokenize "upper(?)" = [Text.Token.text "upper(", Text.Token.positional, Text.Token.text ")"] := by
    decide +kernel
  show Writes (writeTokens (Painter.upTo (n + 1)) frame (Text.tokenize "upper(?)") [.str "y"]) _
  rw [tokens, writeTokens, writeTokens, writeTokens, writeTokens]
  exact (frame.write_writes (by decide)).seq ((value_param_writes frame n rfl).seq
    ((frame.write_writes (by decide)).seq Writes.pure))

end Books

/-- An update of a book's title given `upper` assigns it, and writes `"title" = upper(?)`. -/
theorem update_of_title_assigns_its_expression :
    (Books.update (Books.given "title")).assignments Books.frame { values := Books.given "title" } =
        .ok [("title", some Books.upper, some Books.title)] ∧
      Writes ((Books.update (Books.given "title")).writeAssignments (Painter.upTo 2) Books.frame
          { values := Books.given "title" })
        [.text "\"title\"", .text " = ", .text "upper(", .value (.str "y"), .text ")"] := by
  have exact := update_assignments_exactly Books.frame (Books.update (Books.given "title"))
    { values := Books.given "title" } rfl rfl rfl (Books.given_entries "title")
  have assigned : UpdateClauses.columnAssignment { values := Books.given "title" }
      Books.frame.catalog (.int 1) Books.title = some ("title", some Books.upper, some Books.title) :=
    UpdateClauses.columnAssignment_of_lookup (Books.given_entries "title") rfl
  have matched : UpdateClauses.unmatched Books.schema [Books.title] [("title", Books.upper)] = [] := rfl
  have expected : UpdateClauses.expectedAssignments { values := Books.given "title" } Books.frame.catalog (.int 1)
      Books.schema [Books.title] [("title", Books.upper)] = [("title", some Books.upper, some Books.title)] := by
    simp only [UpdateClauses.expectedAssignments, List.filterMap_cons, List.filterMap_nil, assigned, matched,
      List.map_nil, List.append_nil]
  dsimp only at exact
  rw [Books.dataColumns, expected] at exact
  refine ⟨exact.1, ?_⟩
  have written := (exact.2.2.2.2 (Painter.upTo 2) .postgres (fun _ => [.text "upper(", .value (.str "y"), .text ")"])
    (fun _ => .int 1) rfl (List.cons_ne_nil _ _) rfl
    (fun e mem => by
      rw [List.mem_singleton] at mem
      subst mem
      exact Books.upper_writes 0)
    (fun col mem => by
      rw [List.mem_singleton] at mem
      subst mem
      exact ⟨by rfl, value_param_writes Books.frame 1 rfl⟩)).1
  have quoted : Dialect.postgres.quoteIdentifier "title" = "\"title\"" := by decide +kernel
  simpa [assignmentPieces, Books.frame, quoted] using written

/-- An expression given for a column under another case is dropped, and the column keeps the
instance's value. -/
theorem expression_for_other_case_dropped :
    (Books.update (Books.given "TITLE")).assignments Books.frame { values := Books.given "TITLE" } =
      .ok [("title", none, some Books.title)] := by
  rw [Query.assignments_eq_expected _ _ _ rfl rfl rfl (Books.given_entries "TITLE")]
  have valued : UpdateClauses.columnAssignment { values := Books.given "TITLE" }
      Books.frame.catalog (.int 1) Books.title = some ("title", none, some Books.title) := by
    have unfound : List.lookup Books.title.name [("TITLE", Books.upper)] = none := by decide
    rw [UpdateClauses.columnAssignment, Books.given_entries, Query.valueFor?_givenEntries, unfound]
    rfl
  have found : (Books.schema.column? "TITLE").isNone = false := by decide
  have dropped : UpdateClauses.unmatched Books.schema [Books.title] [("TITLE", Books.upper)] = [] := by
    simp [UpdateClauses.unmatched, found]
  simp only [UpdateClauses.expectedAssignments, Books.dataColumns, List.filterMap_cons, List.filterMap_nil,
    valued, dropped, List.map_nil, List.append_nil]

end SqlMapper
