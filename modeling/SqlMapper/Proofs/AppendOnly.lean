import Mathlib
import SqlMapper.Query.Render

/-!
# Writing only appends

A statement is written as pieces appended one after another, and no writer of
the library reads the pieces written before it. So every writing appends the
same pieces and ends the same way, whatever was written before it
(`SqlM.Appends`): a writing is a fixed outcome and a fixed list of pieces.

Each way of combining writings keeps this (sequencing, choice, loops, writing
items with a separator), and so do the frame's writers of text, identifiers,
columns, slots and values. A painter appends when what it writes for every
value, fragment and query does (`Painter.Appends`); every query writer does
when its painter does, and the painters of every depth do
(`Painter.upTo_appends`). What a part of a statement writes can then be read
off by itself and put together with its neighbours.
-/

set_option autoImplicit false

namespace SqlMapper

open SqlMapper.Schema SqlMapper.Text

/-- A writing appends the same pieces and ends the same way, whatever was written before it. -/
def SqlM.Appends {α : Type} (m : SqlM α) : Prop :=
  ∃ r ps, ∀ s, m.run.run s = (r, s ++ ps)

namespace SqlM.Appends

variable {α β : Type}

theorem pure (a : α) : Appends (Pure.pure a : SqlM α) :=
  ⟨.ok a, #[], fun s => by simp [ExceptT.run_pure]; rfl⟩

theorem throw (f : Fault) : Appends (MonadExcept.throw f : SqlM α) :=
  ⟨.error f, #[], fun s => by simp [ExceptT.run_throw]; rfl⟩

/-- A computation that writes nothing, run as a writing. -/
theorem lift (e : Except Fault α) : Appends (liftM e : SqlM α) :=
  ⟨e, #[], fun s => by cases e <;> simp <;> rfl⟩

theorem emit (piece : Piece) : Appends (Frame.emit piece) :=
  ⟨.ok (), #[piece], fun s => by simp [Frame.emit]; rfl⟩

/-- A writing followed by one that depends on its value: the first one's pieces come
first, and the second runs only if the first gave a value. -/
theorem bind {m : SqlM α} {f : α → SqlM β} (first : Appends m) (second : ∀ a, Appends (f a)) :
    Appends (m >>= f) := by
  obtain ⟨r, ps, ran⟩ := first
  cases r with
  | error e => exact ⟨.error e, ps, fun s => by simp only [ExceptT.run_bind, StateT.run_bind, ran]; rfl⟩
  | ok a =>
    obtain ⟨r', ps', ran'⟩ := second a
    refine ⟨r', ps ++ ps', fun s => ?_⟩
    simp only [ExceptT.run_bind, StateT.run_bind, ran]
    show StateT.run (ExceptT.run (f a)) (s ++ ps) = _
    rw [ran', Array.append_assoc]

theorem map {m : SqlM α} (f : α → β) (writes : Appends m) : Appends (f <$> m) := by
  rw [map_eq_pure_bind]
  exact bind writes fun a => pure (f a)

theorem discard {m : SqlM α} (writes : Appends m) : Appends (Functor.discard m) :=
  map _ writes

theorem ite {c : Prop} [Decidable c] {m n : SqlM α} (yes : Appends m) (no : Appends n) :
    Appends (if c then m else n) := by
  split
  · exact yes
  · exact no

/-- A loop appends when each of its steps does, from every state. -/
theorem forIn {body : α → β → SqlM (ForInStep β)} (steps : ∀ x b, Appends (body x b)) :
    ∀ (xs : List α) (init : β), Appends (ForIn.forIn xs init body)
  | [], init => pure init
  | x :: xs, init => by
    rw [List.forIn_cons]
    refine bind (steps x init) fun step => ?_
    cases step with
    | done b => exact pure b
    | yield b => exact forIn steps xs b

/-- Converting every item of a list appends when each conversion does. -/
theorem mapM {f : α → SqlM β} (each : ∀ x, Appends (f x)) : ∀ xs : List α, Appends (xs.mapM f)
  | [] => pure []
  | x :: xs => by
    rw [List.mapM_cons]
    exact bind (each x) fun _ => bind (mapM each xs) fun _ => pure _

end SqlM.Appends

open SqlM

namespace Frame

variable (fr : Frame)

theorem write_appends (text : String) : (fr.write text).Appends := by
  unfold Frame.write
  exact Appends.ite (Appends.pure ()) (Appends.emit _)

theorem writeIdent_appends (name : String) : (fr.writeIdent name).Appends :=
  fr.write_appends _

theorem writeColumn_appends (name : String) (aliasName : Option String) :
    (fr.writeColumn name aliasName).Appends := by
  unfold Frame.writeColumn
  dsimp only
  -- whichever alias is chosen, one identifier is written
  split
  · exact Appends.ite (fr.writeIdent_appends _) (fr.writeIdent_appends _)
  · exact fr.writeIdent_appends _

theorem writeSlot_appends (slot : Slot) : (fr.writeSlot slot).Appends := by
  unfold Frame.writeSlot
  split
  · exact Appends.throw _
  · -- the table's name or alias is one identifier, its key or all its columns one text
    split
    · exact fr.writeIdent_appends _
    · exact fr.writeIdent_appends _
    · exact fr.write_appends _
    · exact fr.write_appends _

theorem writeParam_appends (v : Value) : (fr.writeParam v).Appends :=
  Appends.emit _

/-- Items written with a separator append when each item's writing does. -/
theorem writeJoined_appends {α : Type} (sep : String) {f : α → SqlM Unit} (each : ∀ x, (f x).Appends) :
    ∀ xs, (fr.writeJoined sep f xs).Appends
  | [] => Appends.pure ()
  | [x] => each x
  | x :: y :: rest => by
    rw [Frame.writeJoined]
    · exact Appends.bind (each x) fun _ => Appends.bind (fr.write_appends sep) fun _ =>
        writeJoined_appends sep each (y :: rest)
    · simp

end Frame

/-- A painter appends when what it writes for every value, fragment and query does. -/
structure Painter.Appends (p : Painter) : Prop where
  value : ∀ fr v, (p.value fr v).Appends
  fragment : ∀ fr f, (p.fragment fr f).Appends
  query : ∀ fr v, (p.query fr v).Appends

namespace Painter.Appends

variable {p : Painter} (hp : p.Appends)
include hp

theorem conditions (fr : Frame) (conds : List Fragment) : (p.conditions fr conds).Appends := by
  unfold Painter.conditions
  refine Appends.bind (Appends.forIn (fun c first => ?_) conds true) fun _ => Appends.pure _
  extract_lets first' later written
  -- each condition but the first is preceded by its separator
  have condition : ∀ r, (written r).Appends := fun _ =>
    Appends.bind (Frame.write_appends fr _) fun _ => Appends.bind (hp.fragment fr c) fun _ =>
      Appends.bind (Frame.write_appends fr _) fun _ => Appends.pure _
  exact Appends.ite (Appends.bind (Appends.lift _) fun sep => Appends.bind (Frame.write_appends fr sep) condition)
    (condition ())

theorem list (fr : Frame) (sep : String) (fs : List Fragment) : (p.list fr sep fs).Appends :=
  Frame.writeJoined_appends fr sep (hp.fragment fr) fs

end Painter.Appends

/-! ## The clauses every query writes -/

namespace Query

variable {p : Painter} (hp : p.Appends) (fr : Frame) (q : Query)
include hp

theorem writeWith_appends : (q.writeWith p fr).Appends := by
  unfold Query.writeWith
  refine Appends.ite (Appends.pure ()) (Appends.bind (Appends.lift _) fun d => ?_)
  extract_lets clause
  have written : ∀ r, (clause r).Appends := by
    intro r
    refine Appends.bind (fr.write_appends _) fun _ => Appends.bind ?_ fun _ => fr.write_appends _
    refine Frame.writeJoined_appends fr _ (fun cte => ?_) _
    obtain ⟨name, sub⟩ := cte
    exact Appends.bind (fr.writeIdent_appends name) fun _ => Appends.bind (fr.write_appends _) fun _ => hp.value fr sub
  exact Appends.ite (Appends.bind (Appends.throw _) written) (written ())

theorem writeTables_appends (withAlias : Bool) : (q.writeTables p fr withAlias).Appends := by
  unfold Query.writeTables
  extract_lets unwritten written others aliased
  -- whatever was written first, the other tables follow, each after a comma but the first
  have rest : ∀ r wrote, (others r wrote).Appends := by
    intro r wrote
    refine Appends.bind (Appends.forIn (fun t b => ?_) _ _) fun _ => Appends.pure _
    extract_lets b' table
    have one : ∀ r, (table r).Appends := fun _ => Appends.bind (hp.fragment fr t) fun _ => Appends.pure _
    exact Appends.ite (Appends.bind (fr.write_appends _) one) (one ())
  split
  · exact Appends.bind (hp.fragment fr _) fun _ => rest () true
  · refine Appends.bind (fr.writeIdent_appends _) fun _ => ?_
    extract_lets a
    have next : ∀ r, (aliased r).Appends := fun _ => rest () true
    exact Appends.ite (Appends.bind (fr.write_appends _) fun _ => Appends.bind (fr.writeIdent_appends _) next)
      (next ())
  · exact rest () false

theorem writeWhere_appends (required : Bool) : (q.writeWhere p fr required).Appends := by
  unfold Query.writeWhere
  extract_lets deleted tail
  -- with or without the key condition, the conditions go on to the same clause
  have clause : ∀ conds, (tail conds).Appends := by
    intro conds
    dsimp -zeta only [tail]
    extract_lets written
    have body : ∀ r, (written r).Appends := by
      intro r
      dsimp -zeta only [written, deleted]
      refine Appends.ite (Appends.pure ()) ?_
      refine Appends.bind (fr.write_appends _) fun _ => Appends.bind (hp.conditions fr conds) fun _ => ?_
      split
      · extract_lets test
        exact Appends.ite (Appends.bind (fr.write_appends _) fun _ => hp.fragment fr _) (hp.fragment fr _)
      · exact Appends.pure ()
    exact Appends.ite (Appends.bind (Appends.throw _) body) (body ())
  exact Appends.ite (Appends.bind (Appends.lift _) fun _ => Appends.bind (Appends.pure _) clause)
    (Appends.bind (Appends.pure _) clause)

theorem writeReturningOf_appends (d : Dialect) (fs : List Fragment) : (writeReturningOf p fr d fs).Appends := by
  unfold Query.writeReturningOf
  refine Appends.ite (Appends.pure ()) ?_
  extract_lets clause
  have written : ∀ r, (clause r).Appends := fun _ =>
    Appends.bind (fr.write_appends _) fun _ => hp.list fr _ fs
  exact Appends.ite (Appends.bind (Appends.throw _) written) (written ())

theorem writeReturning_appends : (q.writeReturning p fr).Appends := by
  unfold Query.writeReturning
  exact Appends.ite (Appends.pure ()) (Appends.bind (Appends.lift _) fun d => writeReturningOf_appends hp fr d _)

end Query

/-! ## Selects -/

theorem Join.writeOn_appends (fr : Frame) (j : Join) : (j.writeOn fr).Appends := by
  unfold Join.writeOn
  refine Appends.bind (fr.write_appends _) fun _ => Appends.bind (fr.writeIdent_appends _) fun _ =>
    Appends.bind (fr.write_appends _) fun _ => Appends.bind (fr.writeIdent_appends _) fun _ =>
    Appends.bind (fr.write_appends _) fun _ => Appends.bind (Appends.lift _) fun pairs => ?_
  refine Appends.bind (Frame.writeJoined_appends fr _ (fun pair => ?_) pairs) fun _ => fr.write_appends _
  obtain ⟨base, col⟩ := pair
  exact Appends.bind (fr.writeColumn_appends _ _) fun _ => Appends.bind (fr.write_appends _) fun _ =>
    fr.writeColumn_appends _ _

theorem Join.writeConditions_appends {p : Painter} (hp : p.Appends) (fr : Frame) (withDeleted : Bool) (j : Join) :
    (j.writeConditions p fr withDeleted).Appends := by
  unfold Join.writeConditions
  extract_lets t deleted
  -- the test of a soft-delete column comes last, however the shaping conditions ended
  have tail : ∀ r, (deleted r).Appends := by
    intro r
    dsimp -zeta only [deleted, t]
    split
    · exact Appends.ite (Appends.bind (fr.write_appends _) fun _ => Appends.bind (fr.writeColumn_appends _ _)
        fun _ => fr.write_appends _) (Appends.pure ())
    · exact Appends.pure ()
  refine Appends.bind (Appends.lift _) fun shaped => ?_
  split
  · exact Appends.ite (Appends.bind (fr.write_appends _) fun _ => Appends.bind (hp.conditions _ _) fun _ =>
      Appends.bind (fr.write_appends _) tail) (tail ())
  · exact tail ()

theorem Join.write_appends {p : Painter} (hp : p.Appends) (fr : Frame) (withDeleted : Bool) (j : Join) :
    (j.write p fr withDeleted).Appends :=
  Appends.bind (j.writeOn_appends fr) fun _ => j.writeConditions_appends hp fr withDeleted

namespace Query

variable {p : Painter} (hp : p.Appends) (fr : Frame) (q : Query)
include hp

theorem writeColumns_appends (c : SelectClauses) : (q.writeColumns p fr c).Appends := by
  unfold Query.writeColumns
  extract_lets cat base entries
  refine Appends.bind (Appends.lift _) fun joins => Appends.bind (Appends.forIn (fun j es => ?_) _ _) fun es => ?_
  · exact Appends.bind (Appends.lift _) fun _ => Appends.pure _
  · refine Frame.writeJoined_appends fr _ (fun e => ?_) _
    split
    · split
      · exact fr.writeColumn_appends _ _
      · exact hp.fragment fr _
    · exact hp.fragment fr _
    · exact hp.fragment _ _

theorem writeSelectHead_appends (c : SelectClauses) (d : Dialect) (paren : Bool) :
    (writeSelectHead p fr c d paren).Appends := by
  unfold Query.writeSelectHead
  extract_lets distinguished started
  have distinguishing : ∀ r, (distinguished r).Appends := fun _ =>
    Appends.bind (fr.write_appends _) fun _ => Appends.bind (hp.list fr _ _) fun _ => fr.write_appends _
  have starting : ∀ r, (started r).Appends := fun _ =>
    Appends.bind (fr.write_appends _) fun _ =>
      Appends.ite (Appends.ite (Appends.bind (Appends.throw _) distinguishing) (distinguishing ()))
        (Appends.ite (fr.write_appends _) (Appends.pure ()))
  exact Appends.ite (Appends.bind (fr.write_appends _) starting) (starting ())

theorem writeFrom_appends : (q.writeFrom p fr).Appends := by
  unfold Query.writeFrom
  exact Appends.ite (Appends.bind (fr.write_appends _) fun _ => Appends.discard (writeTables_appends hp fr q true))
    (Appends.pure ())

theorem writeRelationJoins_appends (c : SelectClauses) : (q.writeRelationJoins p fr c).Appends := by
  unfold Query.writeRelationJoins
  exact Appends.bind (Appends.lift _) fun _ => Appends.bind
    (Appends.forIn (fun j _ => Appends.bind (Join.write_appends hp fr _ j) fun _ => Appends.pure _) _ _) fun _ =>
    Appends.pure _

theorem writeSelectRest_appends (c : SelectClauses) (d : Dialect) (paren count : Bool) :
    (q.writeSelectRest p fr c d paren count).Appends := by
  unfold Query.writeSelectRest
  extract_lets combined closed paged ordered grouped
  -- each part of the select appends, from the set operations back to the explicit joins
  have combining : ∀ r, (combined r).Appends := by
    intro r
    refine Appends.bind (Appends.forIn (fun member _ => ?_) _ _) fun _ => Appends.pure _
    obtain ⟨op, other⟩ := member
    refine Appends.bind (fr.write_appends op) fun _ => ?_
    extract_lets queried
    have written : ∀ r, (queried r).Appends := fun _ =>
      Appends.bind (hp.query fr other) fun _ =>
        Appends.ite (Appends.bind (fr.write_appends _) fun _ => Appends.pure _) (Appends.pure _)
    exact Appends.ite (Appends.bind (fr.write_appends _) written) (written ())
  have closing : ∀ r, (closed r).Appends := fun _ =>
    Appends.ite (Appends.ite (Appends.bind (fr.write_appends _) combining) (combining ())) (Appends.pure ())
  have paging : ∀ r, (paged r).Appends := by
    intro r
    refine Appends.bind (fr.write_appends _) fun _ => ?_
    split
    · exact Appends.bind (fr.write_appends _) fun _ => Appends.bind (hp.fragment fr _) closing
    · exact closing ()
  have ordering : ∀ r, (ordered r).Appends := fun _ =>
    Appends.ite (Appends.ite (Appends.bind (fr.write_appends _) fun _ => Appends.bind (hp.list fr _ _) paging)
      (paging ())) (closing ())
  have grouping : ∀ r, (grouped r).Appends := fun _ =>
    Appends.ite (Appends.bind (fr.write_appends _) fun _ => Appends.bind (Frame.writeJoined_appends fr _
      (fun h => Appends.bind (fr.write_appends _) fun _ => Appends.bind (hp.fragment fr h) fun _ =>
        fr.write_appends _) _) ordering) (ordering ())
  exact Appends.bind (Appends.forIn (fun jc _ => Appends.bind (fr.write_appends _) fun _ =>
      Appends.bind (hp.fragment fr _) fun _ => Appends.ite (Appends.bind (fr.write_appends _) fun _ =>
        Appends.bind (hp.conditions fr _) fun _ => Appends.pure _) (Appends.pure _)) _ _) fun _ =>
    Appends.bind (writeWhere_appends hp fr q false) fun _ =>
    Appends.ite (Appends.bind (fr.write_appends _) fun _ => Appends.bind (hp.list fr _ _) grouping) (grouping ())

theorem writeSelectTail_appends (c : SelectClauses) (d : Dialect) (paren count : Bool) :
    (q.writeSelectTail p fr c d paren count).Appends :=
  Appends.bind (writeFrom_appends hp fr q) fun _ => Appends.bind (writeRelationJoins_appends hp fr q c) fun _ =>
    writeSelectRest_appends hp fr q c d paren count

theorem writeSelect_appends (c : SelectClauses) (count : Bool) : (q.writeSelect p fr c count).Appends := by
  unfold Query.writeSelect
  refine Appends.bind (Appends.lift _) fun d => ?_
  extract_lets wrap paren ended listed
  -- the select, with its select list or `count(*)`, closed as a sub-query when wrapped
  have ending : ∀ r, (ended r).Appends := fun _ =>
    Appends.bind (writeSelectTail_appends hp fr q c d paren count) fun _ =>
      Appends.ite (Appends.bind (fr.write_appends _) fun _ => fr.writeIdent_appends _) (Appends.pure ())
  have listing : ∀ r, (listed r).Appends := fun _ =>
    Appends.bind (writeSelectHead_appends hp fr c d paren) fun _ =>
      Appends.ite (Appends.bind (fr.write_appends _) ending) (Appends.bind (writeColumns_appends hp fr q c) ending)
  exact Appends.bind (writeWith_appends hp fr q) fun _ =>
    Appends.ite (Appends.bind (fr.write_appends _) listing) (listing ())

/-! ## Inserts, updates and deletes -/

theorem writeConflict_appends (c : InsertClauses) (d : Dialect) (names : List Value) :
    (q.writeConflict p fr c d names).Appends := by
  unfold Query.writeConflict
  extract_lets pkNames updated
  split
  · exact Appends.ite (fr.write_appends _) (Appends.pure ())
  · extract_lets template clause conflict lead assigning written checked
    -- without assignments given, every inserted column but the keys is assigned
    have assigned : ∀ r, (assigning r).Appends := fun _ =>
      Appends.bind (fr.write_appends _) fun _ => Frame.writeJoined_appends fr _
        (fun n => Appends.bind (Appends.lift _) fun _ => fr.write_appends _) _
    have writing : ∀ r, (written r).Appends := fun _ =>
      Appends.bind (fr.write_appends _) fun _ => Appends.bind (hp.fragment fr _) fun _ =>
        Appends.ite (Appends.pure ()) (Appends.ite (Appends.bind (fr.write_appends _) fun _ =>
          Appends.bind (hp.list fr _ _) fun _ => Appends.pure ())
          (Appends.ite (Appends.bind (Appends.throw _) assigned) (assigned ())))
    have checking : ∀ r, (checked r).Appends := fun _ =>
      Appends.ite (Appends.bind (Appends.throw _) writing) (writing ())
    exact Appends.ite (Appends.bind (Appends.throw _) checking) (checking ())

theorem writeInsertEntry_appends (c : InsertClauses) (d : Dialect) (columns : List Column) (inst n : Value) :
    (writeInsertEntry p fr c d columns inst n).Appends := by
  unfold Query.writeInsertEntry
  split
  · exact hp.fragment fr _
  · split
    · exact Appends.pure ()
    · exact Appends.ite (fr.write_appends _) (Appends.bind (Appends.lift _) fun v => hp.value fr v)

theorem writeInsertRow_appends (c : InsertClauses) (d : Dialect) (columns : List Column) (names : List Value)
    (inst : Value) : (writeInsertRow p fr c d columns names inst).Appends :=
  Appends.bind (fr.write_appends _) fun _ =>
    Appends.bind (Frame.writeJoined_appends fr _ (writeInsertEntry_appends hp fr c d columns inst) _) fun _ =>
      fr.write_appends _

theorem writeInsertValues_appends (c : InsertClauses) (d : Dialect) (columns : List Column) (names : List Value) :
    (q.writeInsertValues p fr c d columns names).Appends := by
  unfold Query.writeInsertValues
  refine Appends.ite (fr.write_appends _) ?_
  exact Appends.bind (fr.write_appends _) fun _ =>
    Appends.bind (Appends.mapM (fun n => Appends.bind (Appends.lift _) fun _ => Appends.pure _) _) fun _ =>
    Appends.bind (fr.write_appends _) fun _ => Appends.bind (fr.write_appends _) fun _ =>
    Frame.writeJoined_appends fr _ (writeInsertRow_appends hp fr c d columns names) _

theorem writeInsert_appends (c : InsertClauses) : (q.writeInsert p fr c).Appends := by
  unfold Query.writeInsert
  refine Appends.bind (Appends.lift _) fun d => ?_
  extract_lets rows started checked
  have writingRows : ∀ r, (rows r).Appends := fun _ =>
    Appends.bind (fr.write_appends _) fun _ => Appends.bind (Appends.discard (writeTables_appends hp fr q false))
      fun _ => Appends.bind (Appends.lift _) fun columns =>
      Appends.bind (writeInsertValues_appends hp fr q c d columns _) fun _ =>
      Appends.bind (writeConflict_appends hp fr q c d _) fun _ => writeReturningOf_appends hp fr d _
  have starting : ∀ r, (started r).Appends := fun _ =>
    Appends.bind (writeWith_appends hp fr q) fun _ => Appends.bind (fr.write_appends _) fun _ =>
      Appends.ite (Appends.bind (fr.write_appends _) writingRows) (writingRows ())
  have checking : ∀ r, (checked r).Appends := fun _ =>
    Appends.ite (Appends.bind (Appends.throw _) starting) (starting ())
  exact Appends.ite (Appends.bind (Appends.throw _) checking) (checking ())

theorem writeUpdateTarget_appends : (q.writeUpdateTarget p fr).Appends := by
  unfold Query.writeUpdateTarget
  extract_lets tablesLeft started
  have starting : ∀ r, (started r).Appends := by
    intro r
    refine Appends.bind (writeWith_appends hp fr q) fun _ => Appends.bind (fr.write_appends _) fun _ => ?_
    split
    · refine Appends.bind (fr.writeIdent_appends _) fun _ => ?_
      exact Appends.ite (Appends.bind (fr.write_appends _) fun _ => Appends.bind (fr.writeIdent_appends _)
        fun _ => Appends.pure _) (Appends.pure _)
    · split
      · exact Appends.bind (hp.fragment fr _) fun _ => Appends.pure _
      · exact Appends.pure _
  exact Appends.ite (Appends.bind (Appends.throw _) starting) (starting ())

theorem writeAssignment_appends (a : String × Option Fragment × Option Column) :
    (q.writeAssignment p fr a).Appends := by
  unfold Query.writeAssignment
  refine Appends.bind (fr.writeIdent_appends _) fun _ => Appends.bind (fr.write_appends _) fun _ => ?_
  split
  · exact hp.fragment fr _
  · exact Appends.bind (Appends.lift _) fun _ => Appends.bind (Appends.lift _) fun v => hp.value fr v
  · exact Appends.pure ()

theorem writeAssignments_appends (c : UpdateClauses) : (q.writeAssignments p fr c).Appends := by
  unfold Query.writeAssignments
  refine Appends.ite (hp.list fr _ _) (Appends.bind (Appends.lift _) fun parts => ?_)
  extract_lets assigned
  have assigning : ∀ r, (assigned r).Appends := fun _ =>
    Frame.writeJoined_appends fr _ (writeAssignment_appends hp fr q) _
  exact Appends.ite (Appends.bind (Appends.throw _) assigning) (assigning ())

theorem writeUpdate_appends (c : UpdateClauses) : (q.writeUpdate p fr c).Appends := by
  unfold Query.writeUpdate
  refine Appends.bind (writeUpdateTarget_appends hp fr q) fun tables => ?_
  extract_lets finishing
  have finished : ∀ r, (finishing r).Appends := fun _ =>
    Appends.bind (writeWhere_appends hp fr q true) fun _ => writeReturning_appends hp fr q
  exact Appends.bind (fr.write_appends _) fun _ => Appends.bind (writeAssignments_appends hp fr q c) fun _ =>
    Appends.ite (Appends.bind (fr.write_appends _) fun _ => Appends.bind (hp.list fr _ _) finished) (finished ())

theorem writeDelete_appends : (q.writeDelete p fr).Appends := by
  unfold Query.writeDelete
  extract_lets finishing started
  have finished : ∀ r, (finishing r).Appends := fun _ =>
    Appends.bind (writeWhere_appends hp fr q true) fun _ => writeReturning_appends hp fr q
  have starting : ∀ r, (started r).Appends := by
    intro r
    refine Appends.bind (writeWith_appends hp fr q) fun _ => ?_
    split
    · -- a soft delete marks the rows with the clock's time
      exact Appends.bind (fr.write_appends _) fun _ =>
        Appends.bind (Appends.discard (writeTables_appends hp fr q true)) fun _ =>
        Appends.bind (fr.write_appends _) fun _ => Appends.bind (fr.writeIdent_appends _) fun _ =>
        Appends.bind (fr.write_appends _) fun _ => Appends.bind (Appends.lift _) fun _ =>
        Appends.bind (Appends.lift _) fun v => Appends.bind (hp.value fr v) finished
    · exact Appends.bind (fr.write_appends _) fun _ =>
        Appends.bind (Appends.discard (writeTables_appends hp fr q true)) finished
  exact Appends.ite (Appends.bind (Appends.throw _) starting) (starting ())

/-! ## Creating and dropping tables -/

theorem writeCreate_appends (c : CreateClauses) : (q.writeCreate p fr c).Appends := by
  unfold Query.writeCreate
  extract_lets closing
  -- the foreign keys given, and those of the relations when asked for, close the definition
  have closed : ∀ related, (closing related).Appends := fun _ =>
    Appends.bind (Appends.forIn (fun fk _ => Appends.bind (fr.write_appends _) fun _ =>
      Appends.bind (hp.fragment fr fk) fun _ => Appends.pure _) _ _) fun _ => fr.write_appends _
  split
  · refine Appends.bind (Appends.lift _) fun d => Appends.bind (fr.write_appends _) fun _ => ?_
    extract_lets keyed defined
    have keys : ∀ r, (keyed r).Appends := fun _ =>
      Appends.ite (Appends.bind (Appends.lift _) closed) (Appends.bind (Appends.pure _) closed)
    have defining : ∀ r, (defined r).Appends := by
      intro r
      refine Appends.bind (fr.writeIdent_appends _) fun _ => Appends.bind (fr.write_appends _) fun _ =>
        Appends.bind (Frame.writeJoined_appends fr _ (fun col => ?_) _) fun _ => ?_
      · -- one column definition
        extract_lets unique
        have uniqueness : ∀ r, (unique r).Appends := fun _ => Appends.ite (fr.write_appends _) (Appends.pure ())
        exact Appends.ite (Appends.bind (fr.write_appends _) uniqueness)
          (Appends.bind (fr.writeIdent_appends _) fun _ => Appends.bind (fr.write_appends _) fun _ =>
            Appends.bind (Appends.lift _) fun _ => Appends.bind (fr.write_appends _) fun _ =>
            Appends.ite (Appends.bind (fr.write_appends _) uniqueness) (uniqueness ()))
      · exact Appends.ite (Appends.bind (fr.write_appends _) fun _ => Appends.bind (fr.write_appends _) fun _ =>
          Appends.bind (fr.write_appends _) keys) (keys ())
    exact Appends.ite (Appends.bind (fr.write_appends _) defining) (defining ())
  · exact Appends.throw _

theorem writeDrop_appends (c : DropClauses) : (q.writeDrop p fr c).Appends := by
  unfold Query.writeDrop
  extract_lets dropped started
  have dropping : ∀ r, (dropped r).Appends := fun _ =>
    Appends.bind (Appends.discard (writeTables_appends hp fr q false)) fun _ =>
      Appends.ite (Appends.bind (Appends.lift _) fun _ => Appends.ite (fr.write_appends _) (Appends.pure ()))
        (Appends.pure ())
  have starting : ∀ r, (started r).Appends := fun _ =>
    Appends.bind (fr.write_appends _) fun _ => Appends.ite (Appends.bind (fr.write_appends _) dropping) (dropping ())
  exact Appends.ite (Appends.bind (Appends.throw _) starting) (starting ())

/-- Every statement appends when its painter does. -/
theorem writeStatement_appends (count : Bool) : (q.writeStatement p fr count).Appends := by
  unfold Query.writeStatement
  extract_lets written
  have writing : ∀ r, (written r).Appends := by
    intro r
    dsimp -zeta only [written]
    split
    · exact writeSelect_appends hp fr q _ count
    · exact writeInsert_appends hp fr q _
    · exact writeUpdate_appends hp fr q _
    · exact writeDelete_appends hp fr q
    · exact writeCreate_appends hp fr q _
    · exact writeDrop_appends hp fr q _
  split
  · exact Appends.bind (Appends.throw _) writing
  · exact writing ()

end Query

/-! ## Painters of every depth -/

section Painting

variable {p : Painter} (hp : p.Appends) (fr : Frame)
include hp

theorem writeTokens_appends : ∀ (tokens : List Token) (args : List Value), (writeTokens p fr tokens args).Appends
  | [], _ => Appends.pure ()
  | .text s :: rest, args => by
    rw [writeTokens]
    exact Appends.bind (fr.write_appends s) fun _ => writeTokens_appends rest args
  | .named slot :: rest, args => by
    rw [writeTokens]
    exact Appends.bind (fr.writeSlot_appends slot) fun _ => writeTokens_appends rest args
  | .positional :: rest, a :: args => by
    rw [writeTokens]
    exact Appends.bind (hp.value fr a) fun _ => writeTokens_appends rest args
  | .positional :: _, [] => by
    rw [writeTokens]
    exact Appends.throw _

theorem writeFragmentWith_appends (f : Fragment) : (writeFragmentWith p fr f).Appends := by
  unfold writeFragmentWith
  split
  · exact fr.writeIdent_appends _
  · exact fr.write_appends _
  · exact fr.writeColumn_appends _ _
  · exact fr.write_appends _
  · exact Frame.writeJoined_appends fr _ (hp.value fr) _
  · exact writeTokens_appends hp fr _ _
  · exact hp.conditions fr _
  · exact Appends.throw _

theorem writeQueryWith_appends (v : Value) : (writeQueryWith p fr v).Appends := by
  unfold writeQueryWith
  exact Appends.bind (Appends.lift _) fun q => Query.writeStatement_appends hp _ q false

theorem writeValueWith_appends (v : Value) : (writeValueWith p fr v).Appends := by
  unfold writeValueWith
  split
  · exact writeFragmentWith_appends hp fr _
  · exact Appends.bind (fr.write_appends _) fun _ => Appends.bind (writeQueryWith_appends hp fr _) fun _ =>
      fr.write_appends _
  · exact fr.writeParam_appends _

end Painting

/-- The painters of every depth append: the one of depth zero only fails, and each deeper one
writes with the one below it. -/
theorem Painter.upTo_appends : ∀ n, (Painter.upTo n).Appends
  | 0 => ⟨fun _ _ => Appends.throw _, fun _ _ => Appends.throw _, fun _ _ => Appends.throw _⟩
  | n + 1 =>
    ⟨writeValueWith_appends (upTo_appends n), writeFragmentWith_appends (upTo_appends n),
      writeQueryWith_appends (upTo_appends n)⟩

end SqlMapper
