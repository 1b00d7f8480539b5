import Mathlib
import SqlMapper.Proofs.AppendOnly
import SqlMapper.Proofs.QuotedIdentifiers
import SqlMapper.Proofs.InlineLiterals
/-!
# Writings with known pieces

`SqlM.Writes m pieces` says that a writing ends well and appends exactly `pieces`, whatever
was written before it. The writers of statement text, identifiers, parameters and joined
items have such pieces, and so does a sequence of writings. For a writing that is only known
to append (`SqlM.Appends`), a run that ends well tells the pieces it wrote, which splits the
run of a statement into the runs of its clauses.
-/

set_option autoImplicit false

namespace SqlMapper

open SqlMapper.Schema SqlMapper.Text

/-- A writing that ends well and appends exactly `pieces`, whatever was written before it. -/
def SqlM.Writes (m : SqlM Unit) (pieces : List Piece) : Prop :=
  ∀ s, m.run.run s = (.ok (), s ++ pieces.toArray)

namespace SqlM.Writes

theorem pure : Writes (Pure.pure ()) [] := fun s => by
  simp [ExceptT.run_pure]
  rfl

theorem seq {m n : SqlM Unit} {ps qs : List Piece} (first : Writes m ps) (second : Writes n qs) :
    Writes (m >>= fun _ => n) (ps ++ qs) := fun s => by
  simp only [ExceptT.run_bind, StateT.run_bind, first s]
  show StateT.run (ExceptT.run n) (s ++ ps.toArray) = _
  rw [second]
  simp

theorem emit (piece : Piece) : Writes (Frame.emit piece) [piece] := fun s => by
  simp [Frame.emit]
  rfl

end SqlM.Writes

open SqlM

namespace Frame

variable (fr : Frame)

theorem write_writes {text : String} (written : text ≠ "") : Writes (fr.write text) [.text text] := by
  have notEmpty : text.isEmpty = false := String.isEmpty_eq_false_iff.2 written
  unfold Frame.write
  rw [notEmpty, if_neg Bool.false_ne_true]
  exact Writes.emit _

theorem writeParam_writes (v : Value) : Writes (fr.writeParam v) [.value v] :=
  Writes.emit _

theorem writeIdent_writes (name : String) :
    Writes (fr.writeIdent name) [.text (fr.dialect.quoteIdentifier name)] := fun s => by
  simpa using fr.writeIdent_run s name

/-- The text of a column of the frame's table, qualified by the frame's alias when it has one. -/
def columnText (name : String) : String :=
  match fr.aliasName with
  | some a => if a.isEmpty then fr.dialect.quoteIdentifier name else fr.dialect.quoteIdentifier (a ++ "." ++ name)
  | none => fr.dialect.quoteIdentifier name

theorem writeColumn_writes (name : String) : Writes (fr.writeColumn name none) [.text (fr.columnText name)] := by
  intro s
  unfold writeColumn columnText
  dsimp only
  cases fr.aliasName with
  | none => simpa using fr.writeIdent_run s name
  | some a =>
    dsimp only
    split <;> simpa using fr.writeIdent_run s _

/-- Items written one after another, with a separator between them. -/
theorem writeJoined_writes {α β : Type} {sep : String} (written : sep ≠ "") {g : β → SqlM Unit} {f : α → β}
    {ps : α → List Piece} :
    ∀ {xs : List α}, (∀ x ∈ xs, Writes (g (f x)) (ps x)) →
      Writes (fr.writeJoined sep g (xs.map f)) (List.intercalate [.text sep] (xs.map ps))
  | [], _ => Writes.pure
  | [x], each => by
    simpa [writeJoined] using each x (by simp)
  | x :: y :: rest, each => by
    rw [List.map_cons, List.map_cons, writeJoined, List.map_cons, List.map_cons, List.intercalate_cons_cons,
      ← List.map_cons, ← List.map_cons, List.append_assoc]
    · exact (each x (by simp)).seq ((fr.write_writes written).seq
        (writeJoined_writes written fun z mem => each z (List.mem_cons_of_mem x mem)))
    · exact List.cons_ne_nil _ _

end Frame

namespace SqlM

variable {α β : Type}

/-- A writing that appends and ends well on one state: the rest of the run goes on from the
pieces it appends, which it appends with that value from every state. -/
theorem Appends.run_bind_ok {m : SqlM α} {k : α → SqlM β} (appends : m.Appends) {s out : Array Piece} {b : β}
    (ran : (m >>= k).run.run s = (.ok b, out)) :
    ∃ a ps, (∀ s', m.run.run s' = (.ok a, s' ++ ps)) ∧ (k a).run.run (s ++ ps) = (.ok b, out) := by
  obtain ⟨r, ps, runs⟩ := appends
  simp only [ExceptT.run_bind, StateT.run_bind, runs] at ran
  cases r with
  | error e => cases ran
  | ok a => exact ⟨a, ps, runs, ran⟩

/-- A writing that appends and ends well on one state writes the pieces it appended there. -/
theorem Appends.writes_of_ok {m : SqlM Unit} (appends : m.Appends) {s out : Array Piece}
    (ran : m.run.run s = (.ok (), out)) : ∃ ps, Writes m ps ∧ out = s ++ ps.toArray := by
  obtain ⟨r, ps, runs⟩ := appends
  rw [runs] at ran
  cases ran
  exact ⟨ps.toList, fun s' => by simpa using runs s', by simp⟩

/-- A writing with known pieces, then the rest of a run. -/
theorem Writes.run_bind {m : SqlM Unit} {k : Unit → SqlM β} {ps : List Piece} (writes : Writes m ps)
    (s : Array Piece) : (m >>= k).run.run s = (k ()).run.run (s ++ ps.toArray) := by
  simp only [ExceptT.run_bind, StateT.run_bind, writes s]
  rfl

/-- A writing that writes nothing and gives `a`, whatever was written before it. -/
def Returns (m : SqlM α) (a : α) : Prop :=
  ∀ s, m.run.run s = (.ok a, s)

namespace Returns

theorem pure (a : α) : Returns (Pure.pure a : SqlM α) a := fun _ => rfl

theorem lift_ok {e : Except Fault α} {a : α} (given : e = .ok a) : Returns (liftM e : SqlM α) a := fun _ => by
  subst given
  rfl

theorem bind {m : SqlM α} {k : α → SqlM β} {a : α} {b : β} (first : Returns m a) (second : Returns (k a) b) :
    Returns (m >>= k) b := fun s => by
  simp only [ExceptT.run_bind, StateT.run_bind, first s]
  exact second s

/-- Converting the images of items with nothing written gives the items' values when each
conversion does. -/
theorem mapM {γ : Type} {f : β → SqlM γ} {h : α → β} {g : α → γ} :
    ∀ {xs : List α}, (∀ x ∈ xs, Returns (f (h x)) (g x)) → Returns ((xs.map h).mapM f) (xs.map g)
  | [], _ => pure []
  | x :: xs, each => by
    rw [List.map_cons, List.mapM_cons, List.map_cons]
    exact (each x (List.mem_cons_self)).bind
      ((mapM fun y mem => each y (List.mem_cons_of_mem x mem)).bind (pure _))

end Returns

/-- A value given with nothing written, then the rest of a run. -/
theorem Returns.run_bind {m : SqlM α} {k : α → SqlM β} {a : α} (given : Returns m a) (s : Array Piece) :
    (m >>= k).run.run s = (k a).run.run s := by
  simp only [ExceptT.run_bind, StateT.run_bind, given s]
  rfl

/-- A run that throws before the rest of it does not end well. -/
theorem run_throw_bind {f : Fault} {k : α → SqlM β} {s out : Array Piece} {b : β} :
    ((MonadExcept.throw f : SqlM α) >>= k).run.run s ≠ (.ok b, out) := by
  intro ran
  cases ran

/-- A value given with nothing written, then a writing on it. -/
theorem Writes.bind_returns {m : SqlM α} {k : α → SqlM Unit} {a : α} {ps : List Piece} (first : Returns m a)
    (rest : Writes (k a) ps) : Writes (m >>= k) ps := fun s => by
  simp only [ExceptT.run_bind, StateT.run_bind, first s]
  exact rest s

end SqlM


/-- Separators between lists of pieces hold no value. -/
theorem filterMap_intercalate_text (sep : String) :
    ∀ xss : List (List Piece),
      (List.intercalate [.text sep] xss).filterMap Piece.value? = xss.flatMap (·.filterMap Piece.value?)
  | [] => rfl
  | [xs] => by simp
  | xs :: ys :: rest => by
    rw [List.intercalate_cons_cons, List.filterMap_append, List.filterMap_append, filterMap_intercalate_text sep (ys :: rest)]
    simp [Piece.value?]

/-- Whether a value is bound as a parameter: every value but a fragment and a query,
which are written inline. -/
def Value.isParam : Value → Bool
  | .fragment _ => false
  | .query _ => false
  | _ => true

section Painting

variable (fr : Frame) (n : Nat)

/-- A value bound as a parameter is written as one. -/
theorem value_param_writes {v : Value} (param : v.isParam = true) :
    Writes ((Painter.upTo (n + 1)).value fr v) [.value v] := by
  show Writes (writeValueWith (Painter.upTo n) fr v) _
  unfold writeValueWith
  split
  · simp [Value.isParam] at param
  · simp [Value.isParam] at param
  · exact fr.writeParam_writes v

end Painting

end SqlMapper
