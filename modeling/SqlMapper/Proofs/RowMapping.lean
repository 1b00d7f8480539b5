import Mathlib
import SqlMapper.Rows.Map
import SqlMapper.Proofs.Except

/-!
# What mapping rows raises, and what a failure leaves behind

Mapping rows into destinations either gives the mapped value or stops with a
fault of a few kinds only (`Fault.ofRowMapping`): a value or a column the
destination cannot take, no row for a destination that needs one, a class
that cannot be described, a column or a cell that is not there, an element
class no validator can be built for, and an instance that cannot be changed.
Reading one value into a column's class stops only with a mapping fault.

Bytes that are not UTF-8 are decoded outside the validation that turns a
refused value into a mapping fault. What reading such bytes as text raises is
left open here: every statement holds for any rows, and says nothing of the
fault when a cell holds such bytes (`Fault.OfCells`).

A list instance is extended in place, one element per row in row order: when
a row cannot be mapped, the list keeps the elements of the rows before it
(`extendList_outcome`). No other destination is changed by a mapping that
fails.
-/

set_option autoImplicit false

namespace SqlMapper

open SqlMapper.Schema SqlMapper.Text

/-- Whether a fault is one that mapping rows raises: a value or a column the
destination cannot take, no row, a class that cannot be described, a missing
column or cell, a class no validator can be built for, or an instance that
cannot be changed. -/
def Fault.ofRowMapping : Fault → Bool
  | .mapping _ | .noRows | .configuration _ | .outOfRange _ | .unbuildable | .invalid => true
  | _ => false

/-- A cell holding bytes that are not UTF-8 text. -/
def Value.BadText (v : Value) : Prop :=
  ∃ bs e, v = .bytes bs ∧ decodeUtf8 bs = .error e

/-- The faults reading `cells` may stop with: a fault of mapping rows, unless one of the
cells holds bytes that are not UTF-8, on which the fault is left open. -/
def Fault.OfCells (cells : List Value) (f : Fault) : Prop :=
  f.ofRowMapping = true ∨ ∃ v ∈ cells, v.BadText

namespace Fault.OfCells

variable {cells cells' : List Value} {f : Fault}

/-- A fault of mapping rows is allowed whatever the cells. -/
theorem of_designed (designed : f.ofRowMapping = true) : f.OfCells cells := .inl designed

/-- What reading some cells may stop with, reading more cells may stop with too. -/
theorem mono (more : ∀ v ∈ cells, v ∈ cells') (allowed : f.OfCells cells) : f.OfCells cells' := by
  rcases allowed with designed | ⟨v, mem, bad⟩
  · exact .inl designed
  · exact .inr ⟨v, more v mem, bad⟩

/-- A computation that stops only with faults of mapping rows stops with faults allowed for any cells. -/
theorem lift {α : Type} {x : Except Fault α} (designed : FaultsIn (·.ofRowMapping) x) :
    FaultsIn (Fault.OfCells cells) x :=
  FaultsIn.mono (fun _ given => of_designed given) designed

/-- Faults allowed for the cells of one row are allowed for the cells of all rows. -/
theorem flatten {α : Type} {rows : List (List Value)} {row : List Value} (mem : row ∈ rows) {x : Except Fault α}
    (within : FaultsIn (Fault.OfCells row) x) : FaultsIn (Fault.OfCells rows.flatten) x :=
  FaultsIn.mono (fun _ allowed => mono (fun _ cell => List.mem_flatten_of_mem mem cell) allowed) within

end Fault.OfCells

/-! ## Mapping items until one fails -/

section MapUntil

variable {ε α β : Type} (f : α → Except ε β)

end MapUntil

/-! ## Reading one value into a column's class -/

/-- Plain data read from JSON is never bytes. -/
theorem Json.Doc.plain_ne_bytes (d : Json.Doc) (bs : List UInt8) : d.plain ≠ .bytes bs := by
  cases d <;> simp [Json.Doc.plain]

namespace Column

/-- A JSON column's driver value as the document its text holds: bytes are
read as UTF-8 text first, and text that is no JSON document stays text. -/
def readJson : Value → Except Fault Value
  | .bytes bs => do
    let s ← utf8 bs
    pure ((Value.ofJsonText? s).getD (.str s))
  | .str s => pure ((Value.ofJsonText? s).getD (.str s))
  | v => pure v

/-- A value validated against a column's annotation, or refused as a mapping fault. -/
def validated (cat : Catalog) (c : Column) (v : Value) : Except Fault Value :=
  match cat.validate c.ann v with
  | some w => pure w
  | none => throw (.mapping ("cannot convert column " ++ displayString c.name ++ " value " ++ v.display ++
      " to " ++ c.ann.display))

/-- What reading a value does once a JSON column has read its text: a column of
any class takes it as it is; a text column takes numbers as their display
form and bytes as their UTF-8 text; the value is then validated. -/
def settle (cat : Catalog) (c : Column) (v : Value) : Except Fault Value :=
  if c.base == .any then pure v
  else
    match c.base, v with
    | .builtin .str, .int n => c.validated cat (.str (toString n))
    | .builtin .str, .float _ => c.validated cat (.str v.display)
    | .builtin .str, .bytes bs => do c.validated cat (.str (← utf8 bs))
    | _, _ => c.validated cat v

/-- Reading a value that is not `None` reads a JSON column's text first, then settles the value. -/
theorem parse_eq (cat : Catalog) (c : Column) {v : Value} (notNone : v ≠ .none) :
    c.parse cat v = (if c.isJson then readJson v else pure v) >>= c.settle cat := by
  unfold parse
  cases json : c.isJson <;> cases v
  case true.bytes bs =>
    -- reading bytes as JSON decodes them first
    cases decoded : utf8 bs <;> simp only [readJson, decoded] <;> rfl
  all_goals first | exact absurd rfl notNone | rfl

theorem utf8_fault {bs : List UInt8} {f : Fault} (failed : utf8 bs = .error f) :
    ∃ e, decodeUtf8 bs = .error e ∧ f = .undecodable e.message := by
  unfold utf8 at failed
  split at failed
  · cases failed
  · rename_i e decoded
    cases failed
    exact ⟨e, decoded, rfl⟩

/-- Reading a JSON column's text fails only on bytes that are not UTF-8. -/
theorem readJson_fault {v : Value} {f : Fault} (failed : readJson v = .error f) :
    ∃ bs e, v = .bytes bs ∧ decodeUtf8 bs = .error e ∧ f = .undecodable e.message := by
  cases v
  case bytes bs =>
    cases decoded : utf8 bs with
    | error g =>
      simp only [readJson, decoded] at failed
      cases failed
      obtain ⟨e, bad, rfl⟩ := utf8_fault decoded
      exact ⟨bs, e, rfl, bad, rfl⟩
    | ok s => simp [readJson, decoded] at failed
  all_goals cases failed

/-- What a JSON column reads from its text is never bytes. -/
theorem readJson_ne_bytes (v : Value) (bs : List UInt8) : readJson v ≠ .ok (.bytes bs) := by
  have fromText : ∀ s, (Value.ofJsonText? s).getD (.str s) ≠ .bytes bs := by
    intro s
    cases read : Json.Doc.read? s with
    | none => simp [Value.ofJsonText?, read]
    | some d => simpa [Value.ofJsonText?, read] using Json.Doc.plain_ne_bytes d bs
  intro read
  cases v
  case bytes cs =>
    cases decoded : utf8 cs with
    | error g => simp [readJson, decoded] at read
    | ok s =>
      simp only [readJson, decoded] at read
      exact fromText s (Except.ok.inj read)
  case str s => exact fromText s (Except.ok.inj read)
  all_goals cases read

theorem validated_fault {cat : Catalog} {c : Column} {v : Value} {f : Fault} (failed : c.validated cat v = .error f) :
    ∃ m, f = .mapping m := by
  unfold validated at failed
  split at failed
  · cases failed
  · cases failed
    exact ⟨_, rfl⟩

/-- Settling a value fails with a mapping fault, or on bytes that are not
UTF-8 read into a text column. -/
theorem settle_fault {cat : Catalog} {c : Column} {v : Value} {f : Fault} (failed : c.settle cat v = .error f) :
    (∃ m, f = .mapping m) ∨
      ∃ bs e, v = .bytes bs ∧ c.base = .builtin .str ∧ decodeUtf8 bs = .error e ∧ f = .undecodable e.message := by
  unfold settle at failed
  split at failed
  · cases failed
  · split at failed
    case h_3 base bs text =>
      cases decoded : utf8 bs with
      | error g =>
        simp only [decoded] at failed
        cases failed
        obtain ⟨e, bad, rfl⟩ := utf8_fault decoded
        exact .inr ⟨bs, e, rfl, text, bad, rfl⟩
      | ok s =>
        simp only [decoded] at failed
        exact .inl (validated_fault failed)
    all_goals exact .inl (validated_fault failed)

end Column

/-- Reading a value into a column's class fails with a mapping fault, except
on bytes that are not UTF-8 read into a text or JSON column. -/
theorem Column.parse_fault {cat : Catalog} {c : Column} {v : Value} {f : Fault} (failed : c.parse cat v = .error f) :
    (∃ m, f = .mapping m) ∨
      ∃ bs e, v = .bytes bs ∧ decodeUtf8 bs = .error e ∧ f = .undecodable e.message ∧
        (c.isJson = true ∨ c.base = .builtin .str) := by
  by_cases none : v = .none
  · subst none
    cases failed
  rw [Column.parse_eq cat c none] at failed
  cases json : c.isJson
  · -- the value itself is settled
    simp only [json, Bool.false_eq_true, if_false] at failed
    rcases Column.settle_fault failed with mapped | ⟨bs, e, rfl, text, bad, rfl⟩
    · exact .inl mapped
    · exact .inr ⟨bs, e, rfl, bad, rfl, .inr text⟩
  · -- the JSON text is read first; what it gives is never bytes
    simp only [json, if_true] at failed
    cases read : Column.readJson v with
    | error g =>
      rw [read] at failed
      cases failed
      obtain ⟨bs, e, rfl, bad, rfl⟩ := Column.readJson_fault read
      exact .inr ⟨bs, e, rfl, bad, rfl, .inl rfl⟩
    | ok u =>
      rw [read] at failed
      rcases Column.settle_fault failed with mapped | ⟨bs, e, rfl, _, _, _⟩
      · exact .inl mapped
      · exact absurd read (Column.readJson_ne_bytes v bs)

/-! ## The faults of each stage of a mapping

Describing a class fails only with configuration faults; planning how columns
feed a class adds the mapping fault of a column no field takes; reading a row
adds a missing cell and the faults of reading a value. -/

section Describe

/- Describing classes throws configuration faults only, so its faults lie in any set of
faults that holds every configuration fault. -/
variable {P : Fault → Prop} (config : ∀ m, P (.configuration m))
include config

theorem Catalog.fieldColumns_faults (cat : Catalog) : ∀ fuel name path ann tags default pre parentNullable,
    FaultsIn P (cat.fieldColumns fuel name path ann tags default pre parentNullable)
  | 0, _, _, _, _, _, _, _ => by
    rw [Catalog.fieldColumns]
    exact FaultsIn.pure _
  | fuel + 1, name, path, ann, tags, default, pre, parentNullable => by
    rw [Catalog.fieldColumns]
    dsimp only
    split_ifs
    · split
      · split_ifs
        · exact FaultsIn.bind (FaultsIn.mapM fun f _ => Catalog.fieldColumns_faults cat fuel _ _ _ _ _ _ _)
            fun _ _ => FaultsIn.pure _
        · exact FaultsIn.throw (config _)
      · exact FaultsIn.throw (config _)
    · exact FaultsIn.pure _

/-- Describing an entity class fails only with configuration faults. -/
theorem Catalog.buildSchema_faults (cat : Catalog) (c : ClassRef) :
    FaultsIn P (cat.buildSchema c) := by
  unfold Catalog.buildSchema Catalog.fieldParts
  refine FaultsIn.bind (FaultsIn.bind (FaultsIn.mapM fun f _ => ?_) fun fields _ => ?_) fun parts _ => ?_
  · split
    · exact FaultsIn.pure _
    · exact FaultsIn.throw (config _)
  · refine FaultsIn.mapM fun f _ => ?_
    unfold Catalog.fieldPart
    split
    dsimp only
    split
    · exact FaultsIn.pure _
    · exact FaultsIn.throw (config _)
    · exact FaultsIn.bind (Catalog.fieldColumns_faults config cat _ _ _ _ _ _ _ _) fun _ _ => FaultsIn.pure _
  · dsimp only
    split
    · exact FaultsIn.bind (FaultsIn.throw (config _)) fun _ _ => FaultsIn.pure _
    · exact FaultsIn.pure _

theorem Catalog.schemaOf_faults (cat : Catalog) (t : Ty) : FaultsIn P (cat.schemaOf t) := by
  unfold Catalog.schemaOf
  split
  · split_ifs
    · exact Catalog.buildSchema_faults config cat _
    · exact FaultsIn.throw (config _)
  · exact FaultsIn.throw (config _)

theorem Relation.targetClass_faults (cat : Catalog) (r : Relation) : FaultsIn P (r.targetClass cat) := by
  unfold Relation.targetClass
  split
  case h_3 => exact FaultsIn.pure _
  all_goals
    split
    · exact FaultsIn.pure _
    · exact FaultsIn.throw (config _)

/-- Building the table of a relation's target fails only with configuration faults. -/
theorem Relation.joinSchema_faults (cat : Catalog) (r : Relation) : FaultsIn P (r.joinSchema cat) :=
  FaultsIn.bind (Relation.targetClass_faults config cat r) fun t _ => Catalog.schemaOf_faults config cat t

end Describe

theorem RowPlan.cell_faults (row : List Value) (i : Nat) : FaultsIn (·.ofRowMapping) (RowPlan.cell row i) := by
  unfold RowPlan.cell
  split
  · exact FaultsIn.pure _
  · exact FaultsIn.throw rfl

/-- A read cell is one of the row's. -/
theorem RowPlan.cell_mem {row : List Value} {i : Nat} {v : Value} (read : RowPlan.cell row i = .ok v) : v ∈ row := by
  unfold RowPlan.cell at read
  split at read
  · rename_i found
    cases read
    exact List.mem_of_getElem? found
  · cases read

/-- Reading a value into a column's class stops with a fault of mapping rows, unless the
value is bytes that are not UTF-8. -/
theorem Column.parse_faults (cat : Catalog) (c : Column) (v : Value) :
    FaultsIn (Fault.OfCells [v]) (c.parse cat v) := by
  intro f failed
  rcases Column.parse_fault failed with ⟨m, rfl⟩ | ⟨bs, e, rfl, bad, -, -⟩
  · exact .of_designed rfl
  · exact .inr ⟨_, List.mem_singleton_self _, bs, e, rfl, bad⟩

/-- Reading a cell of a row into a column's class stops with a fault allowed for the row. -/
theorem Column.parse_faults_of_mem (cat : Catalog) (c : Column) {row : List Value} {v : Value} (mem : v ∈ row) :
    FaultsIn (Fault.OfCells row) (c.parse cat v) :=
  FaultsIn.mono (fun _ allowed => allowed.mono fun _ single => List.mem_singleton.1 single ▸ mem)
    (Column.parse_faults cat c v)

/-- Reading a cell and going on with it stops with a missing cell or a fault of going on
with a cell of the row. -/
theorem RowPlan.cell_bind_faults {α : Type} {row : List Value} {i : Nat} {k : Value → Except Fault α}
    (rest : ∀ v ∈ row, FaultsIn (Fault.OfCells row) (k v)) : FaultsIn (Fault.OfCells row) (RowPlan.cell row i >>= k) :=
  FaultsIn.bind (Fault.OfCells.lift (RowPlan.cell_faults row i)) fun v read => rest v (RowPlan.cell_mem read)

mutual

/-- Reading a row through a plan fails on a missing cell or a value a column cannot take. -/
theorem RowPlan.valuesOf_faults (cat : Catalog) (row : List Value) :
    ∀ plan : RowPlan, FaultsIn (Fault.OfCells row) (plan.valuesOf cat row)
  | ⟨cls, columns, nested, assignments, children⟩ => by
    rw [RowPlan.valuesOf]
    refine FaultsIn.bind (FaultsIn.forIn (fun x b => ?_) _ _) fun _ _ =>
      FaultsIn.bind (RowPlan.childValues_faults cat row children) fun _ _ => FaultsIn.pure _
    split
    exact RowPlan.cell_bind_faults fun v mem =>
      FaultsIn.bind (Column.parse_faults_of_mem cat _ mem) fun _ _ => FaultsIn.pure _

/-- Reading the children of a row fails as reading their rows does; a child that may be
`None` and whose cells all are is `None` without reading further. -/
theorem RowPlan.childValues_faults (cat : Catalog) (row : List Value) :
    ∀ children : List (String × Bool × RowPlan), FaultsIn (Fault.OfCells row) (RowPlan.childValues cat row children)
  | [] => by
    rw [RowPlan.childValues]
    exact FaultsIn.pure _
  | (a, nullable, child) :: rest => by
    rw [RowPlan.childValues]
    have later : ∀ v, FaultsIn (Fault.OfCells row) (do
        let l ← RowPlan.childValues cat row rest
        pure ((a, v) :: l)) :=
      fun v => FaultsIn.bind (RowPlan.childValues_faults cat row rest) fun _ _ => FaultsIn.pure _
    have own : ∀ none : Bool, FaultsIn (Fault.OfCells row)
        (if none then pure Value.none >>= fun v => (do
          let l ← RowPlan.childValues cat row rest
          pure ((a, v) :: l))
        else RowPlan.valuesOf cat row child >>= fun vs => pure (cat.constructWith child.cls vs) >>= fun v => (do
          let l ← RowPlan.childValues cat row rest
          pure ((a, v) :: l))) := by
      intro none
      split
      · exact FaultsIn.bind (FaultsIn.pure _) fun v _ => later v
      · exact FaultsIn.bind (RowPlan.valuesOf_faults cat row child) fun _ _ =>
          FaultsIn.bind (FaultsIn.pure _) fun v _ => later v
    split
    · exact FaultsIn.bind (FaultsIn.mapM fun i _ => Fault.OfCells.lift (RowPlan.cell_faults row i)) fun cells _ => own _
    · exact FaultsIn.bind (FaultsIn.pure _) fun cells _ => own _

end

namespace MapFailure

theorem lift_ok {α : Type} {x : Except Fault α} {a : α} (given : x = .ok a) : MapFailure.lift x = .ok a := by
  rw [given]
  rfl

end MapFailure

/-- How mapping rows leaves a list instance `items`, each row becoming an
element through what `element?` gives: refused before any row, extended by one
element per row, or stopped at a row that fails, extended by the elements of
the rows before it. -/
inductive ListExtension (element? : Except Fault (List Value → Except Fault Value)) (rows : List (List Value))
    (items : List Value) : Except MapFailure Value → Prop
  /-- The element class takes no rows: nothing is added. -/
  | refused {f : Fault} : element? = .error f → ListExtension element? rows items (.error { fault := f })
  /-- Every row is mapped: one element per row, in row order. -/
  | extended {element : List Value → Except Fault Value} {mapped : List Value} :
      element? = .ok element → rows.mapM element = .ok mapped →
      ListExtension element? rows items (.ok (.list (items ++ mapped)))
  /-- A row fails: the elements of the rows before it stay. -/
  | stopped {element : List Value → Except Fault Value} {k : Nat} {mapped : List Value} {f : Fault}
      (fits : k < rows.length) : element? = .ok element → (rows.take k).mapM element = .ok mapped →
      element rows[k] = .error f →
      ListExtension element? rows items (.error { fault := f, extended := some (.list (items ++ mapped)) })

/-- A failure extending a list instance is a fault of choosing the element or of one row's mapping. -/
theorem ListExtension.fault {element? : Except Fault (List Value → Except Fault Value)} {rows : List (List Value)}
    {items : List Value} {outcome : Except MapFailure Value} {P : Fault → Prop}
    (faults : FaultsIn P element?)
    (elements : ∀ element, element? = .ok element → ∀ row ∈ rows, FaultsIn P (element row))
    (extension : ListExtension element? rows items outcome) {φ : MapFailure} (failed : outcome = .error φ) :
    P φ.fault := by
  cases extension with
  | refused refusal =>
    cases failed
    exact faults _ refusal
  | extended => cases failed
  | stopped fits made _ refusal =>
    cases failed
    exact elements _ made _ (List.getElem_mem fits) _ refusal

end SqlMapper
