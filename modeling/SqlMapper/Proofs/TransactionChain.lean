import Mathlib
import SqlMapper.Session.Basic

/-!
# Nested transactions stay in one chain

A session's transactions nest: `BEGIN` opens the outermost one, each one begun
inside another is a savepoint one level deeper, and only the innermost open
transaction can be used. What is proved here holds after every call a program
makes on them (`TxCall`), whether the call gives a value or raises:

* the open transactions form one chain of levels `1, …, k`, each the last one
  begun inside the one before it, and the level open on the connection is `k`
  (`Session.Chain`);
* a call on a transaction that has ended, or whose last inner transaction is
  still open, raises a transaction fault and changes nothing: no statement
  reaches the connection;
* beginning on the database raises a transaction fault exactly when a
  transaction is open;
* while every statement of transaction control has been accepted, the
  statements sent read as brackets whose open ones are exactly the open
  transactions (`Control.brackets`).

The last point needs its condition. A `COMMIT` or `RELEASE` that the
connection refuses leaves the transaction open, so it is later ended by a
second statement, and a rollback ends its transaction even when its
statements are refused.
-/

set_option autoImplicit false

namespace SqlMapper

open SqlMapper.Database

/-! ## Work in a session, read as what it does to the session -/

namespace SessionM

theorem run_bind {α β : Type} (m : SessionM α) (k : α → SessionM β) (s : Session) :
    (m >>= k).run.run s = match m.run.run s with
      | (.ok a, s') => (k a).run.run s'
      | (.error f, s') => (.error f, s') := by
  rw [ExceptT.run_bind, StateT.run_bind]
  rcases m.run.run s with ⟨_ | _, s'⟩ <;> rfl

theorem run_tryCatch {α : Type} (m : SessionM α) (h : Fault → SessionM α) (s : Session) :
    (tryCatch m h).run.run s = match m.run.run s with
      | (.ok a, s') => (.ok a, s')
      | (.error f, s') => (h f).run.run s' := by
  rw [ExceptT.run_tryCatch, StateT.run_bind]
  rcases m.run.run s with ⟨_ | _, s'⟩ <;> rfl

/-- The work after `finally` runs whatever the work before it gave, and its own
fault, if any, is the one raised. -/
theorem run_tryFinally {α β : Type} (m : SessionM α) (f : SessionM β) (s : Session) :
    (tryFinally m f).run.run s = match m.run.run s with
      | (r, s') => match f.run.run s' with
        | (.ok _, s'') => (r, s'')
        | (.error e, s'') => (.error e, s'') := by
  simp only [tryFinally, tryFinally', ExceptT.run, StateT.run]
  dsimp only [Functor.map, ExceptT.map, ExceptT.mk, bind, StateT.bind, pure, StateT.pure]
  rcases m s with ⟨_ | _, s'⟩ <;> rcases ran : f s' with ⟨_ | _, s''⟩ <;> simp only [ran] <;> rfl

/-- Work that keeps a property of the session, whatever it gives. -/
def Keeps {α : Type} (P : Session → Prop) (m : SessionM α) : Prop :=
  ∀ s, P s → P (m.run.run s).2

variable {P : Session → Prop}

theorem Keeps.pure {α : Type} (a : α) : Keeps P (Pure.pure a : SessionM α) :=
  fun _ holds => holds

theorem Keeps.throw {α : Type} (f : Fault) : Keeps P (MonadExcept.throw f : SessionM α) :=
  fun _ holds => holds

theorem Keeps.bind {α β : Type} {m : SessionM α} {k : α → SessionM β} (first : Keeps P m)
    (rest : ∀ a, Keeps P (k a)) : Keeps P (m >>= k) := by
  intro s holds
  rw [run_bind]
  rcases ran : m.run.run s with ⟨_ | a, s'⟩
  · simpa [ran] using first s holds
  · exact rest a s' (by simpa [ran] using first s holds)

theorem Keeps.tryCatch {α : Type} {m : SessionM α} {h : Fault → SessionM α} (body : Keeps P m)
    (handler : ∀ f, Keeps P (h f)) : Keeps P (MonadExcept.tryCatch m h) := by
  intro s holds
  rw [run_tryCatch]
  rcases ran : m.run.run s with ⟨f | _, s'⟩
  · exact handler f s' (by simpa [ran] using body s holds)
  · simpa [ran] using body s holds

end SessionM

namespace Session

open SessionM

theorem run_lift {α : Type} (x : Except Fault α) (s : Session) : (lift x).run.run s = (x, s) := by
  cases x <;> rfl

theorem run_get (s : Session) : (get : SessionM Session).run.run s = (.ok s, s) := rfl

/-- A statement changes the connection only. -/
theorem run_run (text : String) (params : Array Value) (s : Session) :
    (run text params).run.run s =
      ((s.connection.submit text params).2, { s with connection := (s.connection.submit text params).1 }) := by
  simp only [run, run_bind, run_lift]
  rfl

/-- A statement of transaction control changes the connection and is noted
with whether it was accepted. -/
theorem control_run (c : Control) (s : Session) :
    (control c).run.run s = match s.connection.submit c.text #[] with
      | (conn, .ok _) => (.ok (), { s with connection := conn, controls := s.controls ++ [(c, true)] })
      | (conn, .error f) => (.error f, { s with connection := conn, controls := s.controls ++ [(c, false)] }) := by
  rw [control, run_tryCatch, run_bind, run_run]
  rcases s.connection.submit c.text #[] with ⟨conn, _ | _⟩ <;> rfl

theorem transaction_run (i : Nat) (s : Session) :
    (transaction i).run.run s = (match s.transactions[i]? with
      | some t => .ok t
      | none => .error (.outOfRange "list index out of range"), s) := by
  show (match s.transactions[i]? with
      | some t => (Pure.pure t : SessionM Transaction)
      | none => MonadExcept.throw (Fault.outOfRange "list index out of range")).run.run s = _
  cases s.transactions[i]? <;> rfl

/-- A transaction can be used: it is open, and the transaction begun inside it
last is there and has ended. -/
def Usable (txs : Array Transaction) (i : Nat) : Prop :=
  ∃ t, txs[i]? = some t ∧ t.active = true ∧ ∀ c, t.child = some c → ∃ u, txs[c]? = some u ∧ u.active = false

/-- Checking a transaction changes nothing, and passes exactly when it can be used. -/
theorem usable_run (i : Nat) (s : Session) :
    ((usable i).run.run s).2 = s ∧ (((usable i).run.run s).1 = .ok () ↔ Usable s.transactions i) := by
  rw [usable, run_bind, transaction_run]
  rcases found : s.transactions[i]? with _ | t
  · exact ⟨rfl, by simp [Usable, found]⟩
  dsimp only
  cases active : t.active
  · -- an ended transaction cannot be used
    exact ⟨rfl, by simp [Usable, found, active]⟩
  · simp only [Bool.not_true, Bool.false_eq_true, ↓reduceIte]
    cases child : t.child with
    | none => exact ⟨rfl, iff_of_true rfl ⟨t, found, active, by simp [child]⟩⟩
    | some c =>
      -- the transaction begun inside it last must be there and have ended
      rw [run_bind, transaction_run]
      rcases below : s.transactions[c]? with _ | u
      · exact ⟨rfl, by simp [Usable, found, child, below]⟩
      · dsimp only
        cases ended : u.active
        · refine ⟨rfl, iff_of_true rfl ⟨t, found, active, fun c' named => ?_⟩⟩
          rw [child, Option.some.injEq] at named
          exact ⟨u, named ▸ below, ended⟩
        · exact ⟨rfl, by simp [Usable, found, child, below, ended]⟩

/-- Checking a transaction that has ended, or whose last inner transaction is
still open, raises a transaction fault and changes nothing. -/
theorem usable_misused {i : Nat} {s : Session} {t : Transaction} (found : s.transactions[i]? = some t)
    (misused : t.active = false ∨ ∃ c u, t.child = some c ∧ s.transactions[c]? = some u ∧ u.active = true) :
    ∃ msg, (usable i).run.run s = (.error (.transaction msg), s) := by
  rw [usable, run_bind, transaction_run, found]
  dsimp only
  rcases misused with ended | ⟨c, u, child, below, stillOpen⟩
  · exact ⟨_, by simp only [ended, Bool.not_false, ↓reduceIte]; rfl⟩
  · cases active : t.active
    · exact ⟨_, by simp only [Bool.not_false, ↓reduceIte]; rfl⟩
    · -- an open transaction whose last inner one is still open
      simp only [Bool.not_true, Bool.false_eq_true, ↓reduceIte, child]
      rw [run_bind, transaction_run, below]
      exact ⟨_, by simp only [stillOpen, ↓reduceIte]; rfl⟩

/-- Work after a check that passes runs on the session as it was. -/
theorem run_usable_bind {α : Type} {i : Nat} {s : Session} (ready : Usable s.transactions i)
    (k : Unit → SessionM α) : (usable i >>= k).run.run s = (k ()).run.run s := by
  obtain ⟨unchanged, passes⟩ := usable_run i s
  rw [run_bind]
  rcases ran : (usable i).run.run s with ⟨f | _, s'⟩
  · rw [ran] at passes
    cases passes.2 ready
  · rw [ran] at unchanged
    rw [← unchanged]

/-- A check that fails leaves the session as it was, whatever was to follow. -/
theorem run_usable_bind_of_not {α : Type} {i : Nat} {s : Session} (unusable : ¬ Usable s.transactions i)
    (k : Unit → SessionM α) : ((usable i >>= k).run.run s).2 = s := by
  obtain ⟨unchanged, passes⟩ := usable_run i s
  rw [run_bind]
  rcases ran : (usable i).run.run s with ⟨f | _, s'⟩
  · rw [ran] at unchanged
    exact unchanged
  · rw [ran] at passes
    exact absurd (passes.1 rfl) unusable

theorem run_transaction_bind {α : Type} {i : Nat} {s : Session} {t : Transaction} (found : s.transactions[i]? = some t)
    (k : Transaction → SessionM α) : (transaction i >>= k).run.run s = (k t).run.run s := by
  rw [run_bind, transaction_run, found]

/-- Work that fails with a transaction fault before it changes anything. -/
def RefusesTx {α : Type} (m : SessionM α) (s : Session) : Prop :=
  ∃ msg, m.run.run s = (.error (.transaction msg), s)

theorem RefusesTx.bind {α β : Type} {m : SessionM α} {s : Session} (refused : RefusesTx m s)
    (k : α → SessionM β) : RefusesTx (m >>= k) s := by
  obtain ⟨msg, ran⟩ := refused
  exact ⟨msg, by rw [run_bind, ran]⟩

theorem finish_run (i : Nat) (s : Session) :
    (finish i).run.run s = match s.transactions[i]? with
      | some t => (.ok (), { s with
          transactions := s.transactions.set! i { t with active := false }, openLevel := t.level - 1 })
      | none => (.error (Fault.outOfRange "list index out of range"), s) := by
  rw [finish, run_bind, transaction_run]
  cases s.transactions[i]? <;> rfl

/-- Opening a transaction sends its opening statement, and adds it as the
innermost one only when the connection accepts the statement. -/
theorem openTransaction_run (t : Transaction) (s : Session) :
    (openTransaction t).run.run s = match s.connection.submit t.opening.text #[] with
      | (conn, .ok _) => (.ok s.transactions.size,
          { s with connection := conn, controls := s.controls ++ [(t.opening, true)],
                   transactions := s.transactions.push t, openLevel := t.level })
      | (conn, .error f) => (.error f,
          { s with connection := conn, controls := s.controls ++ [(t.opening, false)] }) := by
  rw [openTransaction, run_bind, control_run]
  rcases s.connection.submit t.opening.text #[] with ⟨conn, _ | _⟩ <;> rfl

theorem begin_database_busy {s : Session} (busy : s.openLevel ≠ 0) :
    («begin» .database).run.run s =
      (.error (.transaction "a transaction is already open on this thread; use tx.begin() to nest"), s) := by
  simp only [«begin», run_bind, run_get, busy, bne_iff_ne, ne_eq, not_false_eq_true, ↓reduceIte]
  rfl

theorem begin_database_idle {s : Session} (idle : s.openLevel = 0) :
    («begin» .database).run.run s = (openTransaction { level := 1 }).run.run s := by
  simp only [«begin», run_bind, run_get, idle, bne_self_eq_false, Bool.false_eq_true, ↓reduceIte]

/-- `BEGIN` is always prepared, with no parameter to bind. -/
theorem prepareCall_begin (c : Connection) :
    c.prepareCall Control.begin.text #[] = .ok ({ statement := .begin, params := 0, plan := .other }, []) := by
  rfl

/-- The connection may refuse `BEGIN`, but with a fault of its own, never a
transaction fault. -/
theorem submit_begin_not_transaction (c : Connection) (msg : String) :
    (c.submit Control.begin.text #[]).2 ≠ .error (.transaction msg) := by
  rw [Connection.submit, prepareCall_begin]
  dsimp only
  rw [Connection.execute]
  dsimp only
  rw [Connection.begin]
  -- accepted, the cursor has no row to read; refused, the fault is the connection's own
  cases c.inTransaction <;> intro given <;> cases given

/-- Beginning inside a transaction that can be used opens a transaction one
level deeper, and makes it the last one begun inside the other. -/
theorem begin_transaction_run {p : Nat} {s : Session} (ready : Usable s.transactions p) {parent : Transaction}
    (found : s.transactions[p]? = some parent) :
    («begin» (.transaction p)).run.run s = match (openTransaction { level := parent.level + 1 }).run.run s with
      | (.ok i, s') => (.ok i, { s' with transactions := s'.transactions.set! p { parent with child := some i } })
      | (.error f, s') => (.error f, s') := by
  simp only [«begin»]
  rw [run_usable_bind ready, run_transaction_bind found, run_bind]
  rcases (openTransaction { level := parent.level + 1 }).run.run s with ⟨_ | _, s'⟩ <;> rfl

/-- Statements of transaction control sent one after the other stop at the
first one refused: when every one noted was accepted, all were sent. -/
theorem forM_control_run (cs : List Control) (s : Session) :
    ∃ conn sent, ((cs.forM control).run.run s).2 = { s with connection := conn, controls := s.controls ++ sent } ∧
      ((∀ e ∈ sent, e.2 = true) → sent = cs.map (·, true)) := by
  induction cs generalizing s with
  | nil => exact ⟨s.connection, [], by simp [List.forM]; rfl, fun _ => rfl⟩
  | cons c more ih =>
    rw [List.forM, run_bind, control_run]
    rcases s.connection.submit c.text #[] with ⟨conn, _ | _⟩
    · -- refused: nothing more is sent
      exact ⟨conn, [(c, false)], rfl, fun accepted => absurd (accepted _ List.mem_cons_self) (by simp)⟩
    · obtain ⟨conn', sent, after, complete⟩ := ih
        { s with connection := conn, controls := s.controls ++ [(c, true)] }
      refine ⟨conn', (c, true) :: sent, by simpa using after, fun accepted => ?_⟩
      rw [complete fun e member => accepted e (List.mem_cons_of_mem _ member)]
      rfl

end Session

/-! ## The chain of open transactions -/

namespace Session

/-- The open transactions, innermost first: each is open, its level is one more
than the number of those outside it, and the one outside it has it as the last
transaction begun inside it. -/
inductive Nest (txs : Array Transaction) : List Nat → Prop
  | nil : Nest txs []
  | cons {i : Nat} {outer : List Nat} (t : Transaction) (found : txs[i]? = some t) (active : t.active = true)
      (level : t.level = outer.length + 1)
      (parent : ∀ j, outer.head? = some j → ∃ u, txs[j]? = some u ∧ u.child = some i)
      (rest : Nest txs outer) : Nest txs (i :: outer)

/-- The open transactions of a session form one nest, and no other one is open. -/
structure Chain (txs : Array Transaction) (chain : List Nat) : Prop where
  nest : Nest txs chain
  complete : ∀ j u, txs[j]? = some u → u.active = true → j ∈ chain

namespace Nest

variable {txs txs' : Array Transaction}

/-- A nest stands on the transactions in it only. -/
theorem congr {chain : List Nat} (nest : Nest txs chain) (same : ∀ j ∈ chain, txs'[j]? = txs[j]?) :
    Nest txs' chain := by
  induction nest with
  | nil => exact .nil
  | @cons i outer t found active level parent rest ih =>
    refine .cons t (by rw [same i List.mem_cons_self, found]) active level (fun j head => ?_)
      (ih fun j member => same j (List.mem_cons_of_mem _ member))
    obtain ⟨u, entry, child⟩ := parent j head
    exact ⟨u, by rw [same j (List.mem_cons_of_mem _ (List.mem_of_mem_head? head)), entry], child⟩

/-- Every transaction of a nest is open, at most as deep as the nest. -/
theorem level_le {chain : List Nat} (nest : Nest txs chain) {j : Nat} (member : j ∈ chain) :
    ∃ u, txs[j]? = some u ∧ u.active = true ∧ u.level ≤ chain.length := by
  induction nest with
  | nil => cases member
  | @cons i outer t found active level parent rest ih =>
    rcases List.mem_cons.1 member with rfl | inner
    · exact ⟨t, found, active, by simp [level]⟩
    · obtain ⟨u, entry, open_, deep⟩ := ih inner
      exact ⟨u, entry, open_, by simp only [List.length_cons]; omega⟩

/-- The innermost transaction is not among those outside it. -/
theorem head_not_mem {i : Nat} {outer : List Nat} (nest : Nest txs (i :: outer)) : i ∉ outer := by
  intro member
  cases nest with
  | cons t found active level parent rest =>
    obtain ⟨u, entry, -, deep⟩ := rest.level_le member
    rw [found, Option.some.injEq] at entry
    subst entry
    omega

/-- A transaction outside the innermost one has its inner transaction open. -/
theorem child_open {i : Nat} {outer : List Nat} (nest : Nest txs (i :: outer)) {j : Nat} (member : j ∈ outer) :
    ∃ t c u, txs[j]? = some t ∧ t.child = some c ∧ txs[c]? = some u ∧ u.active = true := by
  induction outer generalizing i with
  | nil => cases member
  | cons k more ih =>
    cases nest with
    | cons t found active level parent rest =>
      rcases List.mem_cons.1 member with rfl | deeper
      · obtain ⟨u, entry, child⟩ := parent j rfl
        exact ⟨u, i, t, entry, child, found, active⟩
      · exact ih rest deeper

end Nest

namespace Chain

variable {txs : Array Transaction}

theorem empty : Chain #[] [] := ⟨.nil, fun _ _ found => by simp at found⟩

/-- A transaction that can be used is the innermost open one, and its level is
the number of open transactions. -/
theorem innermost {chain : List Nat} (chained : Chain txs chain) {i : Nat} (ready : Usable txs i) :
    ∃ outer t, chain = i :: outer ∧ txs[i]? = some t ∧ t.level = chain.length := by
  obtain ⟨t, found, active, ended⟩ := ready
  have member := chained.complete i t found active
  cases chained.nest with
  | nil => cases member
  | @cons h outer u entry _ level _ rest =>
    rcases List.mem_cons.1 member with rfl | inner
    · -- the innermost one
      rw [found, Option.some.injEq] at entry
      exact ⟨outer, t, rfl, found, by rw [entry, level, List.length_cons]⟩
    · -- one further out has its inner transaction open, so it cannot be used
      obtain ⟨t', c, w, entry', child, below, stillOpen⟩ := chained.nest.child_open inner
      rw [found, Option.some.injEq] at entry'
      subst entry'
      obtain ⟨w', below', ended'⟩ := ended c child
      rw [below, Option.some.injEq] at below'
      subst below'
      rw [stillOpen] at ended'
      cases ended'

/-- The outermost transaction begun when none is open. -/
theorem pushOutermost (chained : Chain txs []) : Chain (txs.push { level := 1 }) [txs.size] := by
  refine ⟨.cons _ Array.getElem?_push_size rfl rfl (fun _ none => by cases none) .nil, fun j u entry active => ?_⟩
  rw [Array.getElem?_push] at entry
  split at entry
  · exact List.mem_singleton.2 ‹_›
  · exact absurd (chained.complete j u entry active) List.not_mem_nil

/-- A transaction begun inside the innermost one becomes the innermost, as the
last one begun inside it. -/
theorem pushInner {p : Nat} {outer : List Nat} (chained : Chain txs (p :: outer)) {parent : Transaction}
    (found : txs[p]? = some parent) :
    Chain ((txs.push { level := parent.level + 1 }).set! p { parent with child := some txs.size })
      (txs.size :: p :: outer) := by
  have bounded : p < txs.size := (Array.getElem?_eq_some_iff.1 found).1
  have inChain : ∀ j ∈ p :: outer, j < txs.size := fun j member => by
    obtain ⟨u, entry, -⟩ := chained.nest.level_le member
    exact (Array.getElem?_eq_some_iff.1 entry).1
  -- the entries of the old transactions stay, but for the new child of the innermost one
  have entries : ∀ j, ((txs.push { level := parent.level + 1 }).set! p { parent with child := some txs.size })[j]? =
      if p = j then some { parent with child := some txs.size }
      else if j = txs.size then some { level := parent.level + 1 } else txs[j]? := by
    intro j
    rw [Array.set!_eq_setIfInBounds, Array.getElem?_setIfInBounds, Array.getElem?_push, Array.size_push]
    by_cases same : p = j
    · rw [if_pos same, if_pos same, if_pos (Nat.lt_succ_of_lt bounded)]
    · rw [if_neg same, if_neg same]
  cases chained.nest with
  | cons t entry active level above rest =>
    rw [found, Option.some.injEq] at entry
    subst entry
    have kept : ∀ j ∈ outer, ((txs.push { level := parent.level + 1 }).set! p { parent with child := some txs.size })[j]? =
        txs[j]? := fun j member => by
      have differs : p ≠ j := fun same => chained.nest.head_not_mem (same ▸ member)
      have below : j ≠ txs.size := Nat.ne_of_lt (inChain j (List.mem_cons_of_mem _ member))
      rw [entries, if_neg differs, if_neg below]
    refine ⟨.cons _ (by rw [entries, if_neg (Nat.ne_of_lt bounded), if_pos rfl]) rfl
      (by simp [level]) (fun j head => ?_) (.cons { parent with child := some txs.size } (by rw [entries, if_pos rfl]) active level
        (fun j head => ?_) (rest.congr kept)), fun j u found' open_ => ?_⟩
    · -- the innermost one before is the parent of the new one
      cases head
      exact ⟨_, by rw [entries, if_pos rfl], rfl⟩
    · obtain ⟨u, entry', child⟩ := above j head
      exact ⟨u, by rw [kept j (List.mem_of_mem_head? head), entry'], child⟩
    · rw [entries] at found'
      split_ifs at found' with same fresh
      · exact List.mem_cons_of_mem _ (same ▸ List.mem_cons_self)
      · exact fresh ▸ List.mem_cons_self
      · exact List.mem_cons_of_mem _ (chained.complete j u found' open_)

/-- The innermost transaction ending leaves the ones outside it. -/
theorem finishInnermost {i : Nat} {outer : List Nat} (chained : Chain txs (i :: outer)) {t : Transaction}
    (found : txs[i]? = some t) : Chain (txs.set! i { t with active := false }) outer := by
  have entries : ∀ j, i ≠ j → (txs.set! i { t with active := false })[j]? = txs[j]? := fun j differs => by
    rw [Array.set!_eq_setIfInBounds, Array.getElem?_setIfInBounds_ne differs]
  cases chained.nest with
  | cons u entry active level above rest =>
    refine ⟨rest.congr fun j member => entries j fun same => chained.nest.head_not_mem (same ▸ member),
      fun j u' found' open_ => ?_⟩
    by_cases same : i = j
    · subst same
      rw [Array.set!_eq_setIfInBounds,
        Array.getElem?_setIfInBounds_self_of_lt (Array.getElem?_eq_some_iff.1 found).1, Option.some.injEq] at found'
      rw [← found'] at open_
      cases open_
    · rw [entries j same] at found'
      rcases List.mem_cons.1 (chained.complete j u' found' open_) with rfl | member
      · exact absurd rfl same
      · exact member

end Chain

end Session

/-! ## Statements of transaction control read as brackets -/

namespace Control

/-- Reads one statement of transaction control as a bracket. The state is the
number of transactions and savepoints open and whether a rollback to the
innermost savepoint waits for its release: `BEGIN` opens the first bracket,
`SAVEPOINT savepoint_n` the `n`-th on top of the others, `RELEASE SAVEPOINT
savepoint_n` closes the innermost, also after `ROLLBACK TO SAVEPOINT
savepoint_n`, and `COMMIT` or `ROLLBACK` the last one. None when the statement
does not fit there. -/
def bracket (state : Nat × Bool) : Control → Option (Nat × Bool)
  | .begin => if state = (0, false) then some (1, false) else none
  | .savepoint n => if state.2 = false ∧ 1 ≤ state.1 ∧ n = state.1 + 1 then some (n, false) else none
  | .release n => if 2 ≤ state.1 ∧ n = state.1 then some (state.1 - 1, false) else none
  | .rollbackTo n => if state.2 = false ∧ 2 ≤ state.1 ∧ n = state.1 then some (state.1, true) else none
  | .commit | .rollback => if state = (1, false) then some (0, false) else none

/-- Reads statements of transaction control as brackets, from none open: the
brackets open after them, or none when they are not well bracketed. -/
def brackets (cs : List Control) : Option (Nat × Bool) := cs.foldlM bracket (0, false)

end Control

namespace Session

open SessionM

/-- While the connection has accepted every statement of transaction control
sent, they read as brackets of which `level` are open, with no rollback
waiting for its release. -/
def Bracketed (controls : List (Control × Bool)) (level : Nat) : Prop :=
  (∀ e ∈ controls, e.2 = true) → Control.brackets (controls.map (·.1)) = some (level, false)

namespace Bracketed

variable {cs : List (Control × Bool)} {d : Nat}

/-- After a statement the connection refused, nothing is said. -/
theorem refused (more : List (Control × Bool)) (c : Control) : Bracketed (cs ++ (c, false) :: more) d :=
  fun accepted => absurd (accepted (c, false) (by simp)) (by simp)

/-- Statements read from the brackets open before them to those open after. -/
theorem append (before : Bracketed cs d) {more : List (Control × Bool)} {d' : Nat}
    (read : (more.map (·.1)).foldlM Control.bracket (d, false) = some (d', false)) :
    Bracketed (cs ++ more) d' := by
  intro accepted
  have earlier := before fun e member => accepted e (List.mem_append_left _ member)
  rw [List.map_append, Control.brackets, List.foldlM_append]
  rw [Control.brackets] at earlier
  rw [earlier]
  exact read

end Bracketed

/-- What keeps a session's transactions in order: its open transactions form
one chain, as many as the level open on the connection, and while every
statement of transaction control was accepted, those sent read as brackets
open for exactly these transactions. -/
structure Consistent (s : Session) : Prop where
  chained : ∃ chain, Chain s.transactions chain ∧ s.openLevel = chain.length
  bracketed : Bracketed s.controls s.openLevel

namespace Consistent

/-- A fresh session has no transaction. -/
theorem fresh (cat : Catalog) (clock : Calendar.DateTime) : Consistent { catalog := cat, clock := clock } :=
  ⟨⟨[], Chain.empty, rfl⟩, fun _ => rfl⟩

variable {s : Session}

/-- The connection alone changing keeps a session consistent. -/
theorem connection (consistent : Consistent s) (conn : Connection) :
    Consistent { s with connection := conn } :=
  ⟨consistent.chained, consistent.bracketed⟩

/-- A statement of transaction control refused keeps a session consistent. -/
theorem refused (consistent : Consistent s) (conn : Connection) (c : Control) :
    Consistent { s with connection := conn, controls := s.controls ++ [(c, false)] } :=
  ⟨consistent.chained, Bracketed.refused [] c⟩

end Consistent

/-- A statement keeps a session consistent. -/
theorem keeps_run (text : String) (params : Array Value) : Keeps Consistent (run text params) := by
  intro s consistent
  rw [run_run]
  exact consistent.connection _

theorem keeps_usable (i : Nat) : Keeps Consistent (usable i) := by
  intro s consistent
  rw [(usable_run i s).1]
  exact consistent

theorem keeps_transaction (i : Nat) : Keeps Consistent (transaction i) := by
  intro s consistent
  rw [transaction_run]
  exact consistent

theorem keeps_execute (e : Executor) (text : String) (params : Array Value) :
    Keeps Consistent (execute e text params) := by
  cases e with
  | database => exact keeps_run text params
  | transaction i => exact (keeps_usable i).bind fun _ => keeps_run text params

/-- Beginning a transaction keeps a session consistent: on the database it
opens the first bracket when no transaction is open, inside a transaction
that can be used it opens one on top of the innermost. -/
theorem keeps_begin (e : Executor) : Keeps Consistent («begin» e) := by
  intro s consistent
  obtain ⟨chain, chained, level⟩ := consistent.chained
  cases e with
  | database =>
    by_cases idle : s.openLevel = 0
    · rw [begin_database_idle idle, openTransaction_run]
      have empty : chain = [] := List.eq_nil_of_length_eq_zero (level ▸ idle)
      subst empty
      rcases s.connection.submit _ _ with ⟨conn, _ | _⟩
      · exact consistent.refused conn _
      · refine ⟨⟨[s.transactions.size], chained.pushOutermost, rfl⟩, consistent.bracketed.append ?_⟩
        simp [idle, Control.bracket, Transaction.opening]
    · rw [begin_database_busy idle]
      exact consistent
  | transaction p =>
    by_cases ready : Usable s.transactions p
    · -- the transaction it is begun in is the innermost one
      obtain ⟨outer, parent, rfl, found, depth⟩ := chained.innermost ready
      rw [begin_transaction_run ready found, openTransaction_run]
      rcases s.connection.submit _ _ with ⟨conn, _ | _⟩
      · exact consistent.refused conn _
      · refine ⟨⟨_, chained.pushInner found, by simp [depth]⟩, consistent.bracketed.append ?_⟩
        simp [Control.bracket, Transaction.opening, level, depth]
    · simp only [«begin»]
      rw [run_usable_bind_of_not ready]
      exact consistent

/-- Committing a transaction keeps a session consistent: it must be the
innermost one, whose bracket its statement closes, and it ends only when the
connection accepts that statement. -/
theorem keeps_commit (i : Nat) : Keeps Consistent (commit i) := by
  intro s consistent
  obtain ⟨chain, chained, level⟩ := consistent.chained
  by_cases ready : Usable s.transactions i
  · obtain ⟨outer, t, rfl, found, depth⟩ := chained.innermost ready
    rw [commit, run_usable_bind ready, run_transaction_bind found, run_bind, control_run]
    rcases s.connection.submit _ _ with ⟨conn, _ | _⟩
    · exact consistent.refused conn _
    · -- accepted: the innermost transaction ends
      dsimp only
      rw [finish_run]
      dsimp only
      rw [found]
      refine ⟨⟨outer, chained.finishInnermost found, by simp [depth]⟩, consistent.bracketed.append ?_⟩
      -- the outermost one is committed, a savepoint released
      cases outer with
      | nil => simp [Control.bracket, Transaction.committing, level, depth]
      | cons j more => simp [Control.bracket, Transaction.committing, level, depth]
  · rw [commit, run_usable_bind_of_not ready]
    exact consistent

/-- Rolling a transaction back keeps a session consistent: it must be the
innermost one, whose bracket its statements close, and it ends even when the
connection refuses them. -/
theorem keeps_rollback (i : Nat) : Keeps Consistent (rollback i) := by
  intro s consistent
  obtain ⟨chain, chained, level⟩ := consistent.chained
  by_cases ready : Usable s.transactions i
  · obtain ⟨outer, t, rfl, found, depth⟩ := chained.innermost ready
    rw [rollback, run_usable_bind ready, run_transaction_bind found, run_tryFinally]
    obtain ⟨conn, sent, undone, complete⟩ := forM_control_run t.undoing s
    rcases ran : (t.undoing.forM control).run.run s with ⟨outcome, s'⟩
    rw [ran] at undone
    dsimp only at undone ⊢
    subst undone
    -- whatever the statements gave, the transaction ends
    rw [finish_run]
    dsimp only
    rw [found]
    refine ⟨⟨outer, chained.finishInnermost found, by simp [depth]⟩, fun accepted => ?_⟩
    have all := complete fun e member => accepted e (List.mem_append_right _ member)
    subst all
    refine consistent.bracketed.append ?_ accepted
    cases outer with
    | nil => simp [Control.bracket, Transaction.undoing, level, depth]
    | cons j more => simp [Control.bracket, Transaction.undoing, level, depth]
  · rw [rollback, run_usable_bind_of_not ready]
    exact consistent

theorem keeps_exitBlock (i : Nat) (failed : Bool) : Keeps Consistent (exitBlock i failed) := by
  unfold exitBlock
  refine (keeps_transaction i).bind fun t => ?_
  split
  · split
    · exact keeps_rollback i
    · exact keeps_commit i
  · exact Keeps.pure ()

/-- Work run in a new transaction keeps a session consistent when the work does. -/
theorem keeps_runInTx {α : Type} (e : Executor) {work : Nat → SessionM α} (inner : ∀ i, Keeps Consistent (work i)) :
    Keeps Consistent (runInTx e work) := by
  unfold runInTx
  refine (keeps_begin e).bind fun i => ?_
  refine (Keeps.tryCatch ((inner i).bind fun _ => Keeps.pure _) fun _ => Keeps.pure _).bind fun outcome => ?_
  cases outcome with
  | ok a => exact (keeps_exitBlock i false).bind fun _ => Keeps.pure a
  | error f => exact (keeps_exitBlock i true).bind fun _ => Keeps.throw f

/-- Beginning on the database raises a transaction fault exactly when a
transaction is open on the session. -/
theorem begin_database_refused_iff (s : Session) :
    (∃ msg, ((«begin» .database).run.run s).1 = .error (.transaction msg)) ↔ s.openLevel ≠ 0 := by
  by_cases idle : s.openLevel = 0
  · rw [begin_database_idle idle, openTransaction_run]
    simp only [idle, ne_eq, not_true_eq_false, iff_false, not_exists]
    intro msg
    have opening : ({ level := 1 } : Transaction).opening = .begin := rfl
    have accepted := submit_begin_not_transaction s.connection msg
    rw [opening]
    rcases submitted : s.connection.submit Control.begin.text #[] with ⟨conn, _ | _⟩
    · rw [submitted] at accepted
      simpa using accepted
    · simp
  · rw [begin_database_busy idle]
    exact iff_of_true ⟨_, rfl⟩ idle

/-- A call on a transaction that has ended, or whose last inner transaction is
still open, raises a transaction fault and changes nothing: beginning inside
it, committing it, rolling it back, or running a statement in it. -/
theorem refuses_misused {s : Session} {i : Nat} {t : Transaction} (found : s.transactions[i]? = some t)
    (misused : t.active = false ∨ ∃ c u, t.child = some c ∧ s.transactions[c]? = some u ∧ u.active = true) :
    RefusesTx («begin» (.transaction i)) s ∧ RefusesTx (commit i) s ∧ RefusesTx (rollback i) s ∧
      ∀ text params, RefusesTx (execute (.transaction i) text params) s := by
  have refused : RefusesTx (usable i) s := usable_misused found misused
  exact ⟨refused.bind _, refused.bind _, refused.bind _, fun _ _ => refused.bind _⟩

end Session

/-! ## Programs of transaction calls -/

/-- A call a program makes on the transactions of a session: begin one on an
executor, commit or roll back one, run a statement on an executor, leave the
block of one (having run through, or failed), or run calls in the block of a
new one begun on an executor, raising `raise` after them when it is given. -/
inductive TxCall where
  | begin (e : Executor)
  | commit (i : Nat)
  | rollback (i : Nat)
  | execute (e : Executor) (text : String) (params : Array Value)
  | exitBlock (i : Nat) (failed : Bool)
  | runInTx (e : Executor) (body : List TxCall) (raise : Option Fault)

namespace TxCall

mutual

/-- Makes a call. -/
def perform : TxCall → SessionM Unit
  | .begin e => Session.begin e >>= fun _ => pure ()
  | .commit i => Session.commit i
  | .rollback i => Session.rollback i
  | .execute e text params => Session.execute e text params >>= fun _ => pure ()
  | .exitBlock i failed => Session.exitBlock i failed
  | .runInTx e body raise => Session.runInTx e fun _ => do
    performBlock body
    raise.elim (pure ()) throw

/-- Makes calls one after the other, stopping at the first that raises. -/
def performBlock : List TxCall → SessionM Unit
  | [] => pure ()
  | c :: rest => do
    perform c
    performBlock rest

end

/-- A program of calls: each is made whatever the one before gave, a call
that raises being caught. -/
def program (calls : List TxCall) : SessionM Unit :=
  calls.forM fun c => tryCatch c.perform fun _ => pure ()

open Session SessionM

mutual

/-- Every call keeps a session consistent. -/
theorem keeps_perform : (c : TxCall) → Keeps Consistent c.perform
  | .begin e => by
    rw [perform]
    exact (keeps_begin e).bind fun _ => Keeps.pure ()
  | .commit i => by
    rw [perform]
    exact keeps_commit i
  | .rollback i => by
    rw [perform]
    exact keeps_rollback i
  | .execute e text params => by
    rw [perform]
    exact (keeps_execute e text params).bind fun _ => Keeps.pure ()
  | .exitBlock i failed => by
    rw [perform]
    exact keeps_exitBlock i failed
  | .runInTx e body raise => by
    rw [perform]
    refine keeps_runInTx e fun _ => (keeps_performBlock body).bind fun _ => ?_
    cases raise with
    | none => exact Keeps.pure ()
    | some f => exact Keeps.throw f

theorem keeps_performBlock : (calls : List TxCall) → Keeps Consistent (performBlock calls)
  | [] => by
    rw [performBlock]
    exact Keeps.pure ()
  | c :: rest => by
    rw [performBlock]
    exact (keeps_perform c).bind fun _ => keeps_performBlock rest

end

/-- Every program keeps a session consistent. -/
theorem keeps_program (calls : List TxCall) : Keeps Consistent (program calls) := by
  induction calls with
  | nil => exact Keeps.pure ()
  | cons c rest ih =>
    rw [program, List.forM]
    exact (Keeps.tryCatch (keeps_perform c) fun _ => Keeps.pure ()).bind fun _ => ih

end TxCall

open Session

/-- Whatever program of transaction calls runs on a fresh session, its
transactions are in order after it (`Session.Consistent`: one chain as deep
as the level open, and brackets read off the statements sent while all were
accepted); a call on a transaction that has ended, or whose last inner
transaction is still open, raises a transaction fault and changes nothing;
and beginning on the database raises a transaction fault exactly when a
transaction is open. -/
theorem transactions_stay_in_order :
    (∀ (calls : List TxCall) (cat : Catalog) (clock : Calendar.DateTime),
      Consistent ((TxCall.program calls).run.run { catalog := cat, clock := clock }).2) ∧
    (∀ (s : Session) (i : Nat) (t : Transaction), s.transactions[i]? = some t →
      (t.active = false ∨ ∃ c u, t.child = some c ∧ s.transactions[c]? = some u ∧ u.active = true) →
      RefusesTx («begin» (.transaction i)) s ∧ RefusesTx (commit i) s ∧ RefusesTx (rollback i) s ∧
        ∀ text params, RefusesTx (execute (.transaction i) text params) s) ∧
    (∀ s : Session, (∃ msg, ((«begin» .database).run.run s).1 = .error (.transaction msg)) ↔ s.openLevel ≠ 0) :=
  ⟨fun calls cat clock => TxCall.keeps_program calls _ (Consistent.fresh cat clock),
    fun _ _ _ found misused => refuses_misused found misused,
    begin_database_refused_iff⟩

/-- A transaction committed once cannot be committed again. -/
theorem committed_transaction_refused :
    let s := ((TxCall.program [.begin .database, .commit 0]).run.run { catalog := default, clock := default }).2
    s.transactions[0]? = some { level := 1, active := false } ∧ RefusesTx (commit 0) s := by
  intro s
  have found : s.transactions[0]? = some { level := 1, active := false } := rfl
  exact ⟨found, (transactions_stay_in_order.2.1 s 0 _ found (Or.inl rfl)).2.1⟩

/-- A `COMMIT` the connection refuses, here because the transaction was
already committed by a statement run in it, leaves the transaction open, and
rolling it back sends a second closing statement: what was sent does not
read as brackets. -/
theorem refused_commit_unbracketed :
    let calls := [TxCall.begin .database, .execute (.transaction 0) "COMMIT" #[], .commit 0, .rollback 0]
    let s := ((TxCall.program calls).run.run { catalog := default, clock := default }).2
    s.controls = [(.begin, true), (.commit, false), (.rollback, false)] ∧
      Control.brackets (s.controls.map (·.1)) = none := by
  decide

end SqlMapper
