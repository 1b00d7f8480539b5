import Mathlib
import SqlMapper.Proofs.ResultRouting
import SqlMapper.Proofs.WrittenPieces

/-!
# The select of a join tree and the rows it reads back

A select of a model with relations requested writes, after its tables, one `LEFT JOIN` for each
join that `Join.toOne` gives, in that order: the joined table under the join's alias, `ON` its
join columns under that alias equal to the key columns under the alias it hangs from
(`Join.onPieces`, `Query.writeSelectTail_run`). It selects each joined column under the name
`alias__column`, and reading a row back routes that name to the column of the nested plan
reached through the relations that lead to the join (`RowPlan.build_routes_tree`).

The main statement, `left_joins_introduce_distinct_aliases`, puts these together for the joins
that resolving the requested relation paths gives: every path is joined, the aliases are
pairwise distinct, the `LEFT JOIN`s written are the joins reached through relations to one row,
each joined on aliases introduced before it, and every result name of the table's columns and
of those joins is routed back to its column, a relation that allows `None` reading `None` when
every column routed into it is `NULL`. It holds when the relations' names read back
(`Readable`). Reading splits a result name at its first `__`, so the columns of a relation whose
name holds `__` reach no field (`split_relation_name_reaches_no_field`).
-/

set_option autoImplicit false

namespace SqlMapper

open SqlMapper.Schema SqlMapper.Text SqlM

/-- A column qualified by an alias that is given and not empty is written under that alias. -/
theorem Frame.writeColumn_aliased_writes (fr : Frame) (name : String) {a : String} (named : a ≠ "") :
    Writes (fr.writeColumn name (some a)) [.text (fr.dialect.quoteIdentifier (a ++ "." ++ name))] := by
  have notEmpty : a.isEmpty = false := String.isEmpty_eq_false_iff.2 named
  unfold Frame.writeColumn
  simp only [notEmpty, Bool.false_eq_true, ↓reduceIte]
  exact fr.writeIdent_writes _

namespace Join

/-- The text a `LEFT JOIN` starts with: the joined table under the join's alias, `ON` each join
column of that alias equal to its key column under the alias the join hangs from. -/
def onPieces (d : Dialect) (j : Join) (pairs : List (Column × Column)) : List Piece :=
  [.text " LEFT JOIN ", .text (d.quoteIdentifier j.target.name), .text " AS ", .text (d.quoteIdentifier j.aliasName),
    .text " ON ("] ++
  List.intercalate [.text " AND "] (pairs.map fun (base, col) =>
    [.text (d.quoteIdentifier (j.aliasName ++ "." ++ col.name)), .text " = ",
      .text (d.quoteIdentifier (j.baseAlias ++ "." ++ base.name))]) ++ [.text ")"]

theorem writeOn_writes (fr : Frame) {j : Join} {pairs : List (Column × Column)}
    (paired : j.relation.joinPairs fr.catalog = .ok pairs) (named : j.aliasName ≠ "") (based : j.baseAlias ≠ "") :
    Writes (j.writeOn fr) (j.onPieces fr.dialect pairs) := by
  unfold Join.writeOn onPieces
  refine (fr.write_writes (by decide : " LEFT JOIN " ≠ "")).seq ((fr.writeIdent_writes _).seq
    ((fr.write_writes (by decide : " AS " ≠ "")).seq ((fr.writeIdent_writes _).seq
    ((fr.write_writes (by decide : " ON (" ≠ "")).seq
    (Writes.bind_returns (Returns.lift_ok paired) (Writes.seq ?_ (fr.write_writes (by decide : ")" ≠ ""))))))))
  rw [← List.map_id pairs, List.map_map]
  refine fr.writeJoined_writes (by decide : " AND " ≠ "") fun pair _ => ?_
  obtain ⟨base, col⟩ := pair
  exact (fr.writeColumn_aliased_writes col.name named).seq ((fr.write_writes (by decide : " = " ≠ "")).seq
    (fr.writeColumn_aliased_writes base.name based))

/-- A head of a `LEFT JOIN` written to the end found the join's columns. -/
theorem writeOn_paired (fr : Frame) (j : Join) {s out : Array Piece} (ran : (j.writeOn fr).run.run s = (.ok (), out)) :
    ∃ pairs, j.relation.joinPairs fr.catalog = .ok pairs := by
  unfold Join.writeOn at ran
  rw [(fr.write_writes (by decide : " LEFT JOIN " ≠ "")).run_bind, (fr.writeIdent_writes _).run_bind,
    (fr.write_writes (by decide : " AS " ≠ "")).run_bind, (fr.writeIdent_writes _).run_bind,
    (fr.write_writes (by decide : " ON (" ≠ "")).run_bind] at ran
  cases paired : j.relation.joinPairs fr.catalog with
  | error e =>
    rw [paired] at ran
    cases ran
  | ok pairs => exact ⟨pairs, rfl⟩

/-- A `LEFT JOIN` written to the end starts with its table, its alias and its `ON` columns. -/
theorem write_run {p : Painter} (hp : p.Appends) (fr : Frame) (withDeleted : Bool) {j : Join}
    (named : j.aliasName ≠ "") (based : j.baseAlias ≠ "") {s out : Array Piece}
    (ran : (j.write p fr withDeleted).run.run s = (.ok (), out)) :
    ∃ pairs more, j.relation.joinPairs fr.catalog = .ok pairs ∧
      out.toList = s.toList ++ j.onPieces fr.dialect pairs ++ more := by
  obtain ⟨⟨⟩, ps, head, rest⟩ := Appends.run_bind_ok (j.writeOn_appends fr) ran
  obtain ⟨pairs, paired⟩ := writeOn_paired fr j (head s)
  obtain ⟨more, -, ended⟩ := Appends.writes_of_ok (j.writeConditions_appends hp fr withDeleted) rest
  have written : ps = (j.onPieces fr.dialect pairs).toArray :=
    Array.append_inj_right (Prod.mk.inj ((head s).symm.trans (writeOn_writes fr paired named based s))).2 rfl
  refine ⟨pairs, more, paired, ?_⟩
  rw [ended, written]
  simp

end Join

namespace SqlM

/-- A loop of writings that each append, run to the end, writes one chunk per item in turn: what
the item's writing appends from the state it starts in. -/
theorem forIn_chunks {α : Type} {body : α → SqlM Unit} (appends : ∀ x, (body x).Appends) :
    ∀ (xs : List α) {s out : Array Piece},
      (ForIn.forIn xs PUnit.unit fun x _ => do body x; pure (ForInStep.yield PUnit.unit)).run.run s =
          (.ok PUnit.unit, out) →
        ∃ chunks : List (List Piece), out.toList = s.toList ++ chunks.flatten ∧
          List.Forall₂ (fun x chunk => ∃ start, (body x).run.run start = (.ok (), start ++ chunk.toArray)) xs chunks
  | [], s, out, ran => by
    cases ran
    exact ⟨[], by simp, .nil⟩
  | x :: xs, s, out, ran => by
    rw [List.forIn_cons, bind_assoc] at ran
    obtain ⟨⟨⟩, ps, first, rest⟩ := Appends.run_bind_ok (appends x) ran
    obtain ⟨chunks, ended, each⟩ := forIn_chunks appends xs rest
    refine ⟨ps.toList :: chunks, by simp [ended], .cons ⟨s, by simpa using first s⟩ each⟩

end SqlM

namespace Query

variable {p : Painter} (hp : p.Appends) (fr : Frame) (q : Query) (c : SelectClauses)
include hp

/-- The `LEFT JOIN`s of a select's relations to one row, written to the end, are one after
another the joins `Join.toOne` gives, each starting with its table, its alias and its `ON`
columns. -/
theorem writeRelationJoins_run {ones : List Join} (written : Join.toOne fr.catalog c.relations = .ok ones)
    (named : ∀ j ∈ ones, j.aliasName ≠ "" ∧ j.baseAlias ≠ "") {s out : Array Piece}
    (ran : (q.writeRelationJoins p fr c).run.run s = (.ok (), out)) :
    ∃ chunks : List (List Piece), out.toList = s.toList ++ chunks.flatten ∧
      List.Forall₂ (fun j chunk => ∃ pairs more, j.relation.joinPairs fr.catalog = .ok pairs ∧
        chunk = j.onPieces fr.dialect pairs ++ more) ones chunks := by
  unfold Query.writeRelationJoins at ran
  rw [(Returns.lift_ok written).run_bind, bind_pure_unit] at ran
  obtain ⟨chunks, ended, each⟩ := forIn_chunks (fun j => Join.write_appends hp fr _ j) ones ran
  refine ⟨chunks, ended, ((List.forall₂_and_left _ _).2 ⟨named, each⟩).imp ?_⟩
  rintro j chunk ⟨⟨aliased, based⟩, start, wrote⟩
  obtain ⟨pairs, more, paired, text⟩ := Join.write_run hp fr _ aliased based wrote
  exact ⟨pairs, more, paired, by simpa using text⟩

/-- A select written to the end from its tables on writes its tables, then the `LEFT JOIN`s of
its relations to one row, one after another in the order `Join.toOne` gives, then the rest. -/
theorem writeSelectTail_run (d : Dialect) (paren count : Bool) {ones : List Join}
    (written : Join.toOne fr.catalog c.relations = .ok ones)
    (named : ∀ j ∈ ones, j.aliasName ≠ "" ∧ j.baseAlias ≠ "") {s out : Array Piece}
    (ran : (q.writeSelectTail p fr c d paren count).run.run s = (.ok (), out)) :
    ∃ tables chunks rest, Writes (q.writeFrom p fr) tables ∧
      out.toList = s.toList ++ tables ++ chunks.flatten ++ rest ∧
      List.Forall₂ (fun j chunk => ∃ pairs more, j.relation.joinPairs fr.catalog = .ok pairs ∧
        chunk = j.onPieces fr.dialect pairs ++ more) ones chunks := by
  unfold Query.writeSelectTail at ran
  obtain ⟨⟨⟩, tables, fromRun, ran⟩ := Appends.run_bind_ok (writeFrom_appends hp fr q) ran
  obtain ⟨⟨⟩, joins, joinsRun, ran⟩ := Appends.run_bind_ok (writeRelationJoins_appends hp fr q c) ran
  obtain ⟨rest, -, ended⟩ := Appends.writes_of_ok (writeSelectRest_appends hp fr q c d paren count) ran
  obtain ⟨chunks, joinsText, each⟩ := writeRelationJoins_run hp fr q c written named (joinsRun (s ++ tables))
  refine ⟨tables.toList, chunks, rest, fun s' => by simpa using fromRun s', ?_, each⟩
  rw [ended, Array.toList_append, joinsText]
  simp

end Query

/-- The joins of a placed tree whose relations have names have aliases that are not empty, and
hang from aliases that are not empty when the level's own is not. -/
theorem Placed.aliases_named {cat : Catalog} {s : TableSchema} {parent : Option String} {js : List Join}
    (placed : Placed cat s parent js) :
    Readable cat s js → parent.getD s.aliasName ≠ "" → ∀ j ∈ Join.flatten js, j.aliasName ≠ "" ∧ j.baseAlias ≠ "" := by
  induction placed with
  | nil => simp
  | @cons s parent j rest _ _ aliased based _ _ _ belowIh tailIh =>
    intro readable hangs k mem
    cases readable with
    | cons reads below tail =>
      have named : j.aliasName ≠ "" := by
        rw [aliased]
        cases parent <;> simp [Join.childAlias, reads.named]
      rw [Join.flatten_cons, List.mem_append, List.mem_cons] at mem
      rcases mem with (rfl | inBelow) | inRest
      · exact ⟨named, based ▸ hangs⟩
      · exact belowIh below named k inBelow
      · exact tailIh tail hangs k inRest

/-- The relation paths requested on a select of the model `t`, of table schema `s`, are joined;
the aliases of the table and of its joins are pairwise distinct; the `LEFT JOIN`s are the joins
of relations reached from the table through relations to one row only, each written once and
joined on aliases introduced before it; a select of these joins writes them after its tables,
one after another, each with its table, its alias and its `ON` columns; and the plan of the
model for result names that are the table's columns or the names `alias__column` of those joins'
columns takes every name, routes each to its column through the relations leading to its join,
and reads `None` for a relation that allows it when every column routed into it is `NULL`.
This holds when the relations' names read back (`Readable`: no `__` in them, no column of the
table they hang from named `<relation>__...`), and the table's alias is not empty, holds no `__`
and names no relation joined at the table. -/
theorem left_joins_introduce_distinct_aliases {cat : Catalog} {t : Ty} {s : TableSchema}
    {requests : List (List String × Option (List Step))} {js ones : List Join}
    (schema : cat.schemaOf t = .ok s) (plannable : RowPlan.Plannable cat t)
    (resolved : resolvePaths cat s [] requests = .ok js)
    (plain : ∀ j ∈ Join.flatten js, plainName j.relation.name = true) (readable : Readable cat s js)
    (baseNamed : s.aliasName ≠ "") (baseUnsplit : RowPlan.splitNested s.aliasName = none)
    (baseApart : ∀ j ∈ js, j.relation.name ≠ s.aliasName) (written : Join.toOne cat js = .ok ones) :
    (∀ request ∈ requests, Joined s js request.1) ∧ (s.aliasName :: Join.aliases js).Nodup ∧
      Join.Introduced [s.aliasName] ones ∧ (∀ k, k ∈ ones ↔ Join.ToOneIn cat js k) ∧
      (∀ p : Painter, p.Appends → ∀ (fr : Frame) (q : Query) (c : SelectClauses) (d : Dialect) (paren count : Bool)
          (init out : Array Piece), fr.catalog = cat → c.relations = js →
          (q.writeSelectTail p fr c d paren count).run.run init = (.ok (), out) →
          ∃ tables chunks rest, Writes (q.writeFrom p fr) tables ∧
            out.toList = init.toList ++ tables ++ chunks.flatten ++ rest ∧
            List.Forall₂ (fun j chunk => ∃ pairs more, j.relation.joinPairs cat = .ok pairs ∧
              chunk = j.onPieces fr.dialect pairs ++ more) ones chunks) ∧
      ∀ names : List String, (∀ x ∈ names, (∃ col ∈ s.columns, x = col.name) ∨
          ∃ path k, Join.ToOneAlong cat js path k ∧ ∃ c ∈ k.target.columns, x = k.aliasName ++ "__" ++ c.name) →
        ∃ plan, RowPlan.build cat t names = .ok plan ∧
          (∀ i col, col ∈ s.columns → names[i]? = some col.name → RowPlan.Routes plan [] col i) ∧
          ∀ i path k, Join.ToOneAlong cat js path k → ∀ c ∈ k.target.columns,
            names[i]? = some (k.aliasName ++ "__" ++ c.name) → RowPlan.Routes plan path c i ∧
              ∃ up child, RowPlan.Nests plan path.dropLast up ∧
                up.children.lookup k.relation.name = some (k.relation.nullable, child) ∧
                ∀ row vs, RowPlan.valuesOf cat row up = .ok vs → k.relation.nullable = true →
                  (∀ i ∈ child.indexes, row[i]? = some .none) → vs.lookup k.relation.name = some .none := by
  obtain ⟨placed, joined⟩ := resolvePaths_placed_joined requests .nil resolved
  have nodup := placed.aliases_nodup plain
  have baseFresh := placed.base_not_mem plain baseUnsplit baseApart
  have named : ∀ j ∈ ones, j.aliasName ≠ "" ∧ j.baseAlias ≠ "" := fun j mem =>
    placed.aliases_named readable baseNamed j ((Join.toOne_sublist written).subset mem)
  refine ⟨joined, List.nodup_cons.2 ⟨baseFresh, nodup⟩, ?_, Join.mem_toOne_iff written, ?_,
    fun names selected => RowPlan.build_routes_tree schema plannable placed readable selected⟩
  · refine placed.introduced_toOne nodup written List.mem_cons_self fun a member seen => ?_
    rw [List.mem_singleton.1 seen] at member
    exact baseFresh member
  · intro p hp fr q c d paren count init out sameCatalog sameRelations ran
    subst sameCatalog sameRelations
    exact Query.writeSelectTail_run hp fr q c d paren count written named ran

/-- A computation that ends well gives the value it is read for. -/
theorem eq_ok_of_isOk {ε α : Type} {e : Except ε α} (ok : e.isOk = true) (d : α) : e = .ok (e.toOption.getD d) := by
  cases e with
  | error => cases ok
  | ok a => rfl

/-- The joins of a join with its level, read by `Join.toOne`'s equation. -/
theorem Join.toOne_cons (cat : Catalog) (j : Join) (rest : List Join) :
    Join.toOne cat (j :: rest) = (do
      let below ← Join.toOne cat j.children
      let after ← Join.toOne cat rest
      if ← j.relation.isToOne cat then pure (j :: below ++ after) else pure after) := by
  cases j
  rw [Join.toOne]

namespace Library

/-- The class `Author`. -/
def authorRef : ClassRef := ⟨0, "Author", .table⟩

/-- The class `Book`. -/
def bookRef : ClassRef := ⟨1, "Book", .table⟩

/-- Authors with an `id` and a `name`, and books with an `id`, a `title`, an `author_id` and an
optional `author`, a relation to one author through `author_id`. -/
def catalog : Catalog :=
  ⟨#[⟨authorRef, .model ⟨some "authors", some "author", none,
      [⟨"id", .builtin .int, none⟩, ⟨"name", .builtin .str, none⟩], []⟩⟩,
    ⟨bookRef, .model ⟨some "books", some "book", none,
      [⟨"id", .builtin .int, none⟩, ⟨"title", .builtin .str, none⟩, ⟨"author_id", .builtin .int, none⟩,
        ⟨"author", .union [.cls authorRef, Ty.none], none⟩], []⟩⟩]⟩

/-- The table of books. -/
def bookSchema : TableSchema := (catalog.schemaOf (.cls bookRef)).toOption.getD default

/-- The joins of a select of books with their author. -/
def joins : List Join := (resolvePaths catalog bookSchema [] [(["author"], none)]).toOption.getD []

/-- The join of the relation `author`. -/
def authorJoin : Join := joins.headD default

/-- The result names of the select of books with their author: the book's columns, then each
of the author's as `author__column`. -/
def resultNames : List String :=
  bookSchema.columns.map (·.name) ++ authorJoin.target.columns.map fun c => authorJoin.aliasName ++ "__" ++ c.name

/-- What evaluating the catalog gives for the table of books and for the join of `author`. -/
theorem library_evaluated :
    (catalog.schemaOf (.cls bookRef)).isOk = true ∧ bookSchema.aliasName = "book" ∧
      bookSchema.columns.map (·.name) = ["id", "title", "author_id"] ∧
      (RowPlan.new catalog (.cls bookRef)).isOk = true ∧
      (((RowPlan.new catalog (.cls bookRef)).toOption.getD default).nested.map (·.attr)).Nodup ∧
      (resolvePaths catalog bookSchema [] [(["author"], none)]).isOk = true ∧ joins.length = 1 ∧
      authorJoin.relation.name = "author" ∧ authorJoin.aliasName = "author" ∧ authorJoin.children.length = 0 ∧
      authorJoin.relation.toMany = false ∧ authorJoin.relation.nullable = true ∧
      (authorJoin.relation.isToOne catalog).isOk = true ∧ (authorJoin.relation.isToOne catalog).toOption = some true ∧
      (authorJoin.relation.targetClass catalog).isOk = true ∧
      (RowPlan.new catalog ((authorJoin.relation.targetClass catalog).toOption.getD .any)).isOk = true ∧
      (((RowPlan.new catalog ((authorJoin.relation.targetClass catalog).toOption.getD .any)).toOption.getD
        default).nested.map (·.attr)).Nodup ∧
      authorJoin.target.columns.all (fun c => lower (lower c.name) == lower c.name) = true := by
  decide +kernel

theorem joins_eq : joins = [authorJoin] := by
  obtain ⟨j, single⟩ := List.length_eq_one_iff.1 library_evaluated.2.2.2.2.2.2.1
  rw [authorJoin, single]
  rfl

theorem authorJoin_children : authorJoin.children = [] :=
  List.length_eq_zero_iff.1 library_evaluated.2.2.2.2.2.2.2.2.2.1

/-- The book's columns are named apart from the columns read through `author`. -/
theorem bookSchema_unshadowed :
    ∀ col ∈ bookSchema.columns, ∀ tail : String, lower col.name ≠ lower (authorJoin.relation.name ++ "__" ++ tail) := by
  obtain ⟨-, -, names, -, -, -, -, relName, -⟩ := library_evaluated
  intro col mem tail same
  have named : col.name ∈ ["id", "title", "author_id"] := names ▸ List.mem_map_of_mem mem
  rw [relName, lower_append_sep, show lower "author" = "author" by decide +kernel] at same
  have prefixed : "author__".toList <+: (lower col.name).toList := ⟨(lower tail).toList, by simp [same]⟩
  simp only [List.mem_cons, List.not_mem_nil, or_false] at named
  rcases named with n | n | n <;> rw [n] at prefixed <;> revert prefixed <;> decide +kernel

/-- The relation `author` reads back below the table of books. -/
theorem authorJoin_readsBack : authorJoin.ReadsBack catalog bookSchema := by
  obtain ⟨-, -, -, -, -, -, -, relName, -, -, single, -, -, -, target, targetPlan, targetNodup, stable⟩ :=
    library_evaluated
  refine ⟨?_, ?_, ?_, bookSchema_unshadowed, fun _ => single, fun tc targeted => ?_, ?_⟩
  · rw [relName]
    decide
  · rw [relName]
    decide +kernel
  · rw [relName]
    decide +kernel
  · rw [eq_ok_of_isOk target .any] at targeted
    cases targeted
    exact ⟨_, eq_ok_of_isOk targetPlan default, targetNodup⟩
  · simpa using stable

/-- A select of books with their `author` joins the authors once, under the alias `author`, on an
alias introduced before; the plan of `Book` for the select's result names routes `author__id`
and `author__name` to the author's columns through `author`, and reads `None` for the author
when both are `NULL`. -/
theorem book_author_columns_routed :
    (bookSchema.aliasName :: Join.aliases joins).Nodup ∧ Join.Introduced [bookSchema.aliasName] joins ∧
      ∃ plan, RowPlan.build catalog (.cls bookRef) resultNames = .ok plan ∧
        ∀ c ∈ authorJoin.target.columns, ∀ i, resultNames[i]? = some ("author__" ++ c.name) →
          RowPlan.Routes plan ["author"] c i ∧ ∃ child, plan.children.lookup "author" = some (true, child) ∧
            ∀ row vs, RowPlan.valuesOf catalog row plan = .ok vs → (∀ i ∈ child.indexes, row[i]? = some .none) →
              vs.lookup "author" = some .none := by
  obtain ⟨schemaOk, baseAlias, -, planOk, planNodup, resolvedOk, -, relName, aliasName, -, -, nullable, toOneOk,
    toOne, -⟩ := library_evaluated
  have single : authorJoin.relation.isToOne catalog = .ok true := (eq_ok_of_isOk toOneOk false).trans (by rw [toOne]; rfl)
  have written : Join.toOne catalog joins = .ok joins := by
    rw [joins_eq, Join.toOne_cons, authorJoin_children, Join.toOne_nil]
    simp only [single]
    rfl
  have plain : ∀ j ∈ Join.flatten joins, plainName j.relation.name = true := by
    rw [joins_eq, Join.flatten_cons, authorJoin_children]
    simp only [Join.flatten_nil, List.append_nil, List.mem_singleton, forall_eq, relName]
    decide
  have schema : catalog.schemaOf (.cls bookRef) = .ok bookSchema := eq_ok_of_isOk schemaOk default
  have resolved : resolvePaths catalog bookSchema [] [(["author"], none)] = .ok joins := eq_ok_of_isOk resolvedOk []
  have readable : Readable catalog bookSchema joins := by
    rw [joins_eq]
    exact .cons authorJoin_readsBack (authorJoin_children ▸ .nil) .nil
  have baseNamed : bookSchema.aliasName ≠ "" := by
    rw [baseAlias]
    decide
  have baseUnsplit : RowPlan.splitNested bookSchema.aliasName = none := by
    rw [baseAlias]
    decide +kernel
  have baseApart : ∀ j ∈ joins, j.relation.name ≠ bookSchema.aliasName := by
    rw [joins_eq, baseAlias, List.forall_mem_singleton, relName]
    decide
  obtain ⟨-, nodup, introduced, -, -, routing⟩ := left_joins_introduce_distinct_aliases schema
    ⟨_, eq_ok_of_isOk planOk default, planNodup⟩ resolved plain readable baseNamed baseUnsplit baseApart written
  have along : Join.ToOneAlong catalog joins [authorJoin.relation.name] authorJoin :=
    .here (by simp [joins_eq]) single
  obtain ⟨plan, built, -, routes⟩ := routing resultNames fun x mem => by
    rcases List.mem_append.1 mem with base | joined
    · obtain ⟨col, colMem, rfl⟩ := List.mem_map.1 base
      exact .inl ⟨col, colMem, rfl⟩
    · obtain ⟨c, cMem, rfl⟩ := List.mem_map.1 joined
      exact .inr ⟨_, authorJoin, along, c, cMem, rfl⟩
  refine ⟨nodup, introduced, plan, built, fun c cMem i found => ?_⟩
  rw [show "author__" = "author" ++ "__" by decide, ← aliasName] at found
  obtain ⟨routed, up, child, nests, held, empty⟩ := routes i _ authorJoin along c cMem found
  cases nests
  rw [relName] at routed held empty
  rw [nullable] at held empty
  exact ⟨routed, child, held, fun row vs read => empty row vs read rfl⟩

end Library

/-- The plan of a model `Book` with a relation to one `Author` named `main__author`. -/
def mainAuthorBookPlan : RowPlan :=
  { cls := Library.bookRef, columns := [], nested := [⟨"main__author", "main__author", .cls Library.authorRef, true⟩] }

/-- The result column `main__author__name`, selected from the join of the
relation `main__author`, is split at its first `__` into `main` and
`author__name`, and reaches no field of the model. -/
theorem split_relation_name_reaches_no_field :
    RowPlan.add default 18 mainAuthorBookPlan 2 (Join.childAlias none "main__author" ++ "__" ++ "name") =
      .ok none := rfl

end SqlMapper
