import Mathlib
import SqlMapper.Session.Write
import SqlMapper.Proofs.Except

/-!
# What an insert writes back onto its instances

An insert bound to instances writes back what the database gave it: the rows
its RETURNING clause returned, paired with the instances in order, or, when
it returns nothing, the one generated key, worked out from the key the driver
reports and the number of rows changed. Both read the driver's report of what
became of each row of VALUES (`Landing`): one returned row for each row
inserted or updated, in the order of the VALUES; as many rows changed; the
rows inserted given consecutive keys, and the last one's key reported (the
first one's in a dialect that reports the first).

Given such a report, each instance comes out as it was or with what the
database gave its own row of VALUES, and when a conflict skipped a row no
instance changes at all. This holds whenever rows are returned; with nothing
returned it needs every row of VALUES to have been inserted or skipped. An
upsert that inserts some rows and updates others changes as many rows as
there are instances, yet the keys of those rows are not consecutive, and the
instances are given keys of other rows.
-/

set_option autoImplicit false

namespace SqlMapper

open SqlMapper.Schema

/-- What the database did with one row of an insert's VALUES: skipped it on a
conflict, inserted it as a new row, or updated the row it conflicted with;
with the key of the row it landed on and what RETURNING gives for it. -/
inductive Landing where
  | skipped
  | inserted (key : Int) (returned : List Value)
  | updated (key : Int) (returned : List Value)

namespace Landing

/-- The row RETURNING gives for it, none when it was skipped. -/
def returned? : Landing → Option (List Value)
  | .skipped => none
  | .inserted _ row | .updated _ row => some row

/-- The key of the row it landed on. -/
def key? : Landing → Option Int
  | .skipped => none
  | .inserted key _ | .updated key _ => some key

/-- The key of the row it inserted. -/
def insertedKey? : Landing → Option Int
  | .inserted key _ => some key
  | _ => none

/-- Whether it changed a row. -/
def changed : Landing → Bool
  | .skipped => false
  | _ => true

/-- Whether it updated a row that was there. -/
def isUpdate : Landing → Bool
  | .updated _ _ => true
  | _ => false

/-- A row of VALUES that changed a row without updating one inserted it. -/
theorem inserted_of_changed {l : Landing} (changed : l.changed) (fresh : l.isUpdate = false) :
    ∃ key, l.insertedKey? = some key ∧ l.key? = some key := by
  cases l with
  | skipped => cases changed
  | inserted key _ => exact ⟨key, rfl, rfl⟩
  | updated => cases fresh

end Landing

/-- The keys of the rows inserted, in the order of the VALUES. -/
def insertedKeys (landings : List Landing) : List Int := landings.filterMap Landing.insertedKey?

/-- What a driver reports of an insert that returns nothing, its rows of
VALUES having landed as `landings`: as many rows changed as were inserted or
updated, and, the rows inserted having consecutive keys from some `first`,
the key of the last of them, or of the first in a dialect that reports the
first. -/
structure ReportsKeys (d : Dialect) (landings : List Landing) (cur : Cursor) : Prop where
  /-- The rows changed are the rows inserted or updated. -/
  rowcount : cur.rowcount = (landings.filter Landing.changed).length
  /-- The keys inserted run up from `first`, and the one reported is at an end of the run. -/
  consecutive : ∃ first : Int,
    insertedKeys landings = (List.range (insertedKeys landings).length).map (fun k : Nat => first + k) ∧
    (insertedKeys landings ≠ [] → cur.lastRowid =
      if d.lastRowIdIsFirstRow then first else first + (insertedKeys landings).length - 1)

/-- Each instance was filled by `plan` from the row returned for its own row of VALUES. -/
def FilledFromOwnRows (c : Catalog) (plan : RowPlan) (insts : List Value) (landings : List Landing)
    (out : List Value) : Prop :=
  List.Forall₂ (fun (p : Value × Landing) o => ∃ row, p.2.returned? = some row ∧ plan.fill c p.1 row = .ok o)
    (insts.zip landings) out

/-- Each instance was given, in the column `col`, the key of the row its own
row of VALUES landed on. -/
def KeyedByOwnRows (c : Catalog) (col : Column) (insts : List Value) (landings : List Landing)
    (out : List Value) : Prop :=
  List.Forall₂ (fun (p : Value × Landing) o => ∃ key v, p.2.key? = some key ∧
      col.parse c (.int key) = .ok v ∧ o = p.1.setAttr (".".intercalate col.path) v)
    (insts.zip landings) out

/-! ## Pairing instances with rows -/

/-- When an option is given for every item, the items pair with the values
given, in order. -/
theorem forall₂_filterMap_of_isSome {α β : Type} {f : α → Option β} :
    ∀ {l : List α}, (∀ a ∈ l, (f a).isSome) → List.Forall₂ (fun a b => f a = some b) l (l.filterMap f)
  | [], _ => .nil
  | a :: l, given => by
    obtain ⟨b, found⟩ := Option.isSome_iff_exists.mp (given a List.mem_cons_self)
    rw [List.filterMap_cons, found]
    exact .cons found (forall₂_filterMap_of_isSome fun x member => given x (List.mem_cons_of_mem a member))

/-- What holds of each item paired with a `b` carries over to the item paired
with the `d` that `b` stands for. -/
theorem forall₂_zip_transfer {α β γ δ : Type} {R : α × β → γ → Prop} {S : α × δ → γ → Prop} :
    ∀ {ds : List δ} {bs : List β} {xs : List α} {out : List γ},
      List.Forall₂ (fun d b => ∀ a o, R (a, b) o → S (a, d) o) ds bs →
      List.Forall₂ R (xs.zip bs) out → List.Forall₂ S (xs.zip ds) out
  | [], [], xs, out, .nil, paired => by
    rw [List.zip_nil_right] at paired ⊢
    cases paired
    exact .nil
  | _ :: _, _ :: _, [], out, .cons _ _, paired => by
    rw [List.zip_nil_left] at paired ⊢
    cases paired
    exact .nil
  | _ :: _, _ :: _, x :: _, _, .cons link rest, paired => by
    rw [List.zip_cons_cons] at paired ⊢
    cases paired with
    | cons first later => exact .cons (link x _ first) (forall₂_zip_transfer rest later)

namespace Session

/-! ## The two ways of writing back -/

/-- Filling that succeeds fills each instance, by one plan built from the
returned names, from the row paired with it. -/
theorem fillFrom_ok {c : Catalog} {names : List String} {rows : List (List Value)} {insts out : List Value}
    (filled : fillFrom c names rows insts = .ok out) :
    ∃ plan, RowPlan.build c (classTy (insts.headD .none)) names false = .ok plan ∧
      List.Forall₂ (fun (p : Value × List Value) o => plan.fill c p.1 p.2 = .ok o) (insts.zip rows) out := by
  obtain ⟨plan, built, each⟩ := ok_of_bind_ok filled
  exact ⟨plan, built, forall₂_of_mapM_ok each⟩

/-- The first key worked out from the key reported. -/
def firstKey (d : Dialect) (cur : Cursor) (n : Nat) : Int :=
  if d.lastRowIdIsFirstRow then cur.lastRowid else cur.lastRowid - n + 1

/-- Keys given from the reported key leave the instances as they were, or,
with a key reported, as many rows changed as there are instances and none of
them holding a key, give the `k`-th instance the key `k` past the first. -/
theorem fillGenerated_ok {c : Catalog} {d : Dialect} {cur : Cursor} {col : Column} {insts out : List Value}
    (filled : fillGenerated c d cur col insts = .ok out) :
    out = insts ∨ (cur.lastRowid ≠ 0 ∧ cur.rowcount = insts.length ∧
      List.Forall₂ (fun (p : Value × Nat) o => ∃ v,
          col.parse c (.int (firstKey d cur insts.length + p.2)) = .ok v ∧
          o = p.1.setAttr (".".intercalate col.path) v)
        (insts.zip (List.range insts.length)) out) := by
  rw [fillGenerated] at filled
  split at filled
  · cases filled
    exact .inl rfl
  · rename_i kept
    dsimp only at filled
    rw [List.zipIdx_eq_zip_range', ← List.range_eq_range'] at filled
    simp only [Bool.or_eq_true, beq_iff_eq, bne_iff_ne, ne_eq, not_or, not_not] at kept
    refine .inr ⟨kept.1.1, kept.1.2, ?_⟩
    refine (forall₂_of_mapM_ok filled).imp fun p o given => ?_
    obtain ⟨v, parsed, set⟩ := ok_of_bind_ok given
    cases set
    exact ⟨v, parsed, rfl⟩

/-- The ways an insert's write-back can go: no instance changes; or rows were
returned, as many as the instances, and fill them; or nothing is returned and
the one generated key column is filled. -/
theorem insertWriteBack_ok {c : Catalog} {d : Dialect} {q : Query} {clauses : InsertClauses}
    (insert : q.clauses = .insert clauses) {cur cur' : Cursor} {out : List Value}
    (wrote : insertWriteBack c d q cur = .ok (cur', out)) :
    out = q.instances ∨
    (q.insertReturning clauses d ≠ [] ∧ cur.rows.length = q.instances.length ∧
      fillFrom c cur.columnNames cur.rows q.instances = .ok out) ∨
    (q.insertReturning clauses d = [] ∧ q.instances ≠ [] ∧ ∃ col, q.generatedColumns clauses = [col] ∧
      fillGenerated c d cur col q.instances = .ok out) := by
  simp only [insertWriteBack, insert] at wrote
  by_cases none : q.instances.isEmpty
  · rw [if_pos none] at wrote
    cases wrote
    exact .inl rfl
  rw [if_neg none] at wrote
  by_cases returns : (q.insertReturning clauses d).isEmpty
  · -- nothing returned: the generated key, when there is exactly one
    simp only [returns, Bool.not_true, Bool.false_eq_true, ↓reduceIte] at wrote
    split at wrote
    · rename_i col generated
      obtain ⟨filled, fill, rest⟩ := ok_of_bind_ok wrote
      cases rest
      exact .inr (.inr ⟨List.isEmpty_iff.mp returns, fun empty => none (List.isEmpty_iff.mpr empty),
        col, generated, fill⟩)
    · cases wrote
      exact .inl rfl
  · simp only [returns, Bool.not_false, ↓reduceIte] at wrote
    by_cases unpaired : (cur.columnNames.isEmpty || cur.rows.length != q.instances.length) = true
    · rw [if_pos unpaired] at wrote
      cases wrote
      exact .inl rfl
    · rw [if_neg unpaired] at wrote
      obtain ⟨filled, fill, rest⟩ := ok_of_bind_ok wrote
      cases rest
      simp only [Bool.or_eq_true, bne_iff_ne, ne_eq, not_or, not_not] at unpaired
      exact .inr (.inl ⟨fun empty => returns (List.isEmpty_iff.mpr empty), unpaired.2, fill⟩)

/-! ## Each instance from its own row -/

variable {c : Catalog} {d : Dialect} {cur : Cursor} {landings : List Landing} {insts out : List Value}

/-- Returned rows, as many as the instances, fill each instance from the row
returned for its own row of VALUES. -/
theorem fillFrom_own_rows (returned : cur.rows = landings.filterMap Landing.returned?)
    (each : landings.length = insts.length) (counted : cur.rows.length = insts.length)
    (filled : fillFrom c cur.columnNames cur.rows insts = .ok out) :
    ∃ plan, RowPlan.build c (classTy (insts.headD .none)) cur.columnNames false = .ok plan ∧
      FilledFromOwnRows c plan insts landings out := by
  obtain ⟨plan, built, paired⟩ := fillFrom_ok filled
  -- as many rows as rows of VALUES: none was skipped, so each has its own
  have all : ∀ l ∈ landings, l.returned?.isSome := by
    rw [← List.filterMap_length_eq_length, ← returned, counted, each]
  have own := forall₂_filterMap_of_isSome all
  rw [← returned] at own
  exact ⟨plan, built, forall₂_zip_transfer (own.imp fun _ _ found _ _ fill => ⟨_, found, fill⟩) paired⟩

/-- A skipped row of VALUES leaves fewer rows returned than instances. -/
theorem returned_length_lt (returned : cur.rows = landings.filterMap Landing.returned?)
    (each : landings.length = insts.length) (skipped : Landing.skipped ∈ landings) :
    cur.rows.length < insts.length := by
  rw [returned, ← each, List.length_filterMap_lt_length_iff_exists]
  exact ⟨_, skipped, rfl⟩

/-- A skipped row of VALUES leaves fewer rows changed than instances. -/
theorem rowcount_lt (reports : ReportsKeys d landings cur) (each : landings.length = insts.length)
    (skipped : Landing.skipped ∈ landings) : cur.rowcount < insts.length := by
  rw [reports.rowcount, ← each, Nat.cast_lt, List.length_filter_lt_length_iff_exists]
  exact ⟨_, skipped, by simp [Landing.changed]⟩

/-- When every row of VALUES was inserted, the keys worked out from the key
reported are the keys of the instances' own rows. -/
theorem generated_keys_own_rows {col : Column} (reports : ReportsKeys d landings cur)
    (each : landings.length = insts.length) (fresh : ∀ l ∈ landings, l.isUpdate = false)
    (nonempty : insts ≠ []) (filled : fillGenerated c d cur col insts = .ok out) :
    out = insts ∨ KeyedByOwnRows c col insts landings out := by
  rcases fillGenerated_ok filled with same | ⟨_, counted, given⟩
  · exact .inl same
  right
  -- as many rows changed as rows of VALUES, none updated: every one was inserted
  have changed : ∀ l ∈ landings, l.changed := by
    rw [← List.length_filter_eq_length_iff]
    have := reports.rowcount
    omega
  have inserted : insertedKeys landings = landings.filterMap Landing.key? :=
    List.filterMap_congr fun l member => by
      obtain ⟨key, ins, own⟩ := Landing.inserted_of_changed (changed l member) (fresh l member)
      rw [ins, own]
  have keyed : ∀ l ∈ landings, l.key?.isSome := fun l member => by
    obtain ⟨key, _, own⟩ := Landing.inserted_of_changed (changed l member) (fresh l member)
    simp [own]
  have counted_keys : (insertedKeys landings).length = insts.length := by
    rw [inserted, List.filterMap_length_eq_length.mpr keyed, each]
  obtain ⟨first, consecutive, reported⟩ := reports.consecutive
  -- the first key worked out is the first key inserted
  have starts : firstKey d cur insts.length = first := by
    have nonempty_keys : insertedKeys landings ≠ [] := by
      rw [← List.length_pos_iff, counted_keys, List.length_pos_iff]
      exact nonempty
    rw [firstKey, reported nonempty_keys, counted_keys]
    split <;> omega
  have own := forall₂_filterMap_of_isSome keyed
  rw [← inserted, consecutive, counted_keys, List.forall₂_map_right_iff] at own
  refine forall₂_zip_transfer (own.imp fun l k found inst o given => ?_) given
  obtain ⟨v, parsed, set⟩ := given
  rw [starts] at parsed
  exact ⟨_, v, found, parsed, set⟩

end Session

open Session

/-- Given the driver's report of what became of each row of VALUES, an
insert's write-back leaves every instance as it was when a row was skipped,
and otherwise leaves them as they were, fills each from the row returned for
its own row of VALUES, or gives each the key of its own row; the last needs
every row of VALUES, when nothing is returned, to have been inserted or
skipped, not to have updated a row it conflicted with. -/
theorem insert_writes_back_own_rows {c : Catalog} {d : Dialect} {q : Query} {clauses : InsertClauses}
    (insert : q.clauses = .insert clauses) {landings : List Landing} {cur cur' : Cursor}
    (each : landings.length = q.instances.length)
    (returned : q.insertReturning clauses d ≠ [] → cur.rows = landings.filterMap Landing.returned?)
    (reports : q.insertReturning clauses d = [] → ReportsKeys d landings cur)
    (fresh : q.insertReturning clauses d = [] → ∀ l ∈ landings, l.isUpdate = false)
    {out : List Value} (wrote : insertWriteBack c d q cur = .ok (cur', out)) :
    (Landing.skipped ∈ landings → out = q.instances) ∧
    (out = q.instances ∨
      (∃ plan, RowPlan.build c (classTy (q.instances.headD .none)) cur.columnNames false = .ok plan ∧
        FilledFromOwnRows c plan q.instances landings out) ∨
      ∃ col ∈ q.generatedColumns clauses, KeyedByOwnRows c col q.instances landings out) := by
  rcases insertWriteBack_ok insert wrote with same | ⟨returns, counted, filled⟩ |
      ⟨nothing, nonempty, col, generated, filled⟩
  · exact ⟨fun _ => same, .inl same⟩
  · refine ⟨fun skipped => absurd counted (returned_length_lt (returned returns) each skipped).ne, ?_⟩
    exact .inr (.inl (fillFrom_own_rows (returned returns) each counted filled))
  · refine ⟨fun skipped => ?_, ?_⟩
    · rcases fillGenerated_ok filled with same | ⟨_, counted, _⟩
      · exact same
      · exact absurd counted (rowcount_lt (reports nothing) each skipped).ne
    · rcases generated_keys_own_rows (reports nothing) each (fresh nothing) nonempty filled with same | keyed
      · exact .inl same
      · exact .inr (.inr ⟨col, by simp [generated], keyed⟩)

/-! ## Tags upserted with nothing returned -/

/-- The generated key of a tag. -/
def tagKey : Column :=
  { name := "id", path := ["id"], ann := .any, base := .any, nullable := true, default := .none, pk := true,
    autoincrement := true, softDelete := false, isJson := false, unique := false, nullzero := false,
    sqlType := none }

/-- The class of tags. -/
def tagClass : ClassRef := { id := 0, name := "Tag", sort := .table }

/-- A tag of a name, its key not set. -/
def tag (name : String) : Value := .object tagClass [("id", some .none), ("name", some (.str name))]

/-- An insert of tags returning nothing (`RETURNING NULL`). -/
def tagInsert (tags : List Value) : Query :=
  { model := some (.list tags),
    schema := some { cls := tagClass, name := "tag", aliasName := "tag", columns := [tagKey], relations := [] },
    returning := [.template "NULL" [] ""], clauses := .insert {} }

/-- Two new tags inserted with keys 2 and 3 are each given their own row's key. -/
theorem new_tags_get_own_keys :
    let q := tagInsert [tag "b", tag "c"]
    let cur : Cursor := { rowcount := 2, lastRowid := 3 }
    let landings := [Landing.inserted 2 [], .inserted 3 []]
    let out := [(tag "b").setAttr "id" (.int 2), (tag "c").setAttr "id" (.int 3)]
    insertWriteBack default .sqlite q cur = .ok (cur, out) ∧
    (Landing.skipped ∈ landings → out = q.instances) ∧
    (out = q.instances ∨
      (∃ plan, RowPlan.build default (classTy (q.instances.headD .none)) cur.columnNames false = .ok plan ∧
        FilledFromOwnRows default plan q.instances landings out) ∨
      ∃ col ∈ q.generatedColumns {}, KeyedByOwnRows default col q.instances landings out) := by
  intro q cur landings out
  have wrote : insertWriteBack default .sqlite q cur = .ok (cur, out) := rfl
  have reports : ReportsKeys .sqlite landings cur := ⟨rfl, 2, rfl, fun _ => rfl⟩
  have fresh : ∀ l ∈ landings, l.isUpdate = false := by
    simp [landings, Landing.isUpdate]
  exact ⟨wrote, insert_writes_back_own_rows rfl rfl (fun returns => absurd rfl returns) (fun _ => reports)
    (fun _ => fresh) wrote⟩

/-- Two tags upserted with nothing returned, the first inserted as a new row
with key 3, the second updating the row of key 1 it conflicted with: two rows
changed and key 3 reported, as the driver reports them, yet the instances are
given the keys 2 and 3, neither its own row's. -/
theorem upsert_gives_other_rows_keys :
    ReportsKeys .sqlite [.inserted 3 [], .updated 1 []] { rowcount := 2, lastRowid := 3 } ∧
    insertWriteBack default .sqlite (tagInsert [tag "new", tag "a"]) { rowcount := 2, lastRowid := 3 } =
      .ok ({ rowcount := 2, lastRowid := 3 }, [(tag "new").setAttr "id" (.int 2), (tag "a").setAttr "id" (.int 3)]) :=
  ⟨⟨rfl, 3, rfl, fun _ => rfl⟩, rfl⟩

end SqlMapper
