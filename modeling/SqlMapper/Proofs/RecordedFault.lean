import SqlMapper.Proofs.Except
import SqlMapper.Session.Scan
import SqlMapper.Session.Write

/-!
# The recorded fault

A query records the first configuration problem its calls meet and keeps it. From then on:

* a call never runs its method's body. A chained method gives the query back; `apply` and the
  set operations check their arguments first and then give it back. A call fails outright only
  when the method does not exist for the query's kind, its arguments are the wrong number, or a
  sub-query among them cannot be built (`runStep_of_faulted`, `Query.run_of_faulted`);
* rendering raises that fault (`Query.render_of_faulted`);
* in a session, the statement, `count`, `exists`, running the query and writing with it raise
  that fault and leave the session as it was, so no statement reaches the connection and no hook
  is recorded (`SessionM.FailsWith`).

A scan is the exception. It picks its destination first, and a query with no model and no
destination fails for that instead. It then calls the hook before a select, when the query has a
table, before it writes the statement. So a scan raises the recorded fault untouched exactly
when `Query.ScanRaisesRecorded` holds (`Session.scan_run_of_faulted`). Hooks never change the
recorded fault (`runHookActions_fault`).
-/

set_option autoImplicit false

namespace SqlMapper

/-! ## Calls on a query with a fault -/

namespace Query

variable {q : Query}

/-- Once a fault is recorded a method's body never runs: a chained method gives the query back,
any other checks the number of its arguments first. -/
theorem invoke_of_faulted (faulted : q.fault.isSome) (m : String) (given : Nat)
    (body : Unit → Except Fault Query) :
    q.invoke m given body =
      match signature? q.kind m with
      | none => throw (q.noMethod m)
      | some sig => if sig.chained then pure q else (fun _ => q) <$> sig.check m given := by
  unfold Query.invoke
  cases signature? q.kind m with
  | none => rfl
  | some sig =>
    dsimp only
    -- the body sits behind the fault: only the check of the arguments is left of it
    simp only [faulted, Bool.and_true, if_true, map_eq_pure_bind]

theorem invoke_ok_of_faulted (faulted : q.fault.isSome) {m : String} {given : Nat}
    {body : Unit → Except Fault Query} {q' : Query} (ran : q.invoke m given body = .ok q') :
    q' = q := by
  rw [invoke_of_faulted faulted] at ran
  split at ran
  · cases ran
  · rename_i sig _
    split at ran
    · cases ran
      rfl
    · cases checked : sig.check m given <;> rw [checked] at ran <;> cases ran
      rfl

end Query

section Steps

variable {q : Query} (faulted : q.fault.isSome)
include faulted

/-- A step on a query with a fault gives it back unchanged, if it does not fail. -/
theorem runStep_of_faulted {fuel : Nat} {cat : Catalog} {step : Step} {q' : Query}
    (ran : runStep fuel cat q step = .ok q') : q' = q := by
  cases fuel with
  | zero => cases ran
  | succ fuel =>
    cases step with
    | call m args =>
      -- the sub-queries among the arguments are built first, then the method is invoked
      simp only [runStep] at ran
      obtain ⟨_, -, invoked⟩ := ok_of_bind_ok ran
      exact Query.invoke_ok_of_faulted faulted invoked
    | group sep steps =>
      simp only [runStep] at ran
      exact Query.invoke_ok_of_faulted faulted ran
    | apply steps =>
      simp only [runStep] at ran
      exact Query.invoke_ok_of_faulted faulted ran
    | relation args shape =>
      simp only [runStep] at ran
      exact Query.invoke_ok_of_faulted faulted ran
    | broken e => cases ran

/-- A call of a method the query's kind has, with arguments it accepts and no sub-query among
them, gives a query with a fault back unchanged. -/
theorem runStep_call_of_faulted (fuel : Nat) (cat : Catalog) {m : String} {args : List Value}
    {sig : Signature} (found : signature? q.kind m = some sig)
    (accepted : sig.chained = true ∨ sig.check m args.length = .ok ()) (plain : Value.plansList args = []) :
    runStep (fuel + 1) cat q (.call m args) = .ok q := by
  simp only [runStep, plain, Query.invoke_of_faulted faulted, found, List.forIn_nil, pure_bind]
  rcases accepted with chained | checked
  · simp only [chained, if_true]
    rfl
  · split
    · rfl
    · rw [checked]
      rfl

theorem foldlM_runStep_of_faulted (fuel : Nat) (cat : Catalog) :
    ∀ (steps : List Step) (q' : Query), steps.foldlM (runStep fuel cat) q = .ok q' → q' = q := by
  intro steps
  induction steps with
  | nil =>
    intro q' ran
    cases ran
    rfl
  | cons step rest ih =>
    intro q' ran
    rw [List.foldlM_cons] at ran
    obtain ⟨q1, first, later⟩ := ok_of_bind_ok ran
    rw [runStep_of_faulted faulted first] at later
    exact ih q' later

/-- Steps on a query with a fault give it back unchanged, if they do not fail. -/
theorem Query.run_of_faulted {cat : Catalog} {steps : List Step} {q' : Query}
    (ran : q.run cat steps = .ok q') : q' = q :=
  foldlM_runStep_of_faulted faulted _ cat steps q' ran

end Steps

/-- Rendering a query with a fault raises it. -/
theorem Query.render_of_faulted {q : Query} {f : Fault} (faulted : q.fault = some f) (cat : Catalog)
    (d : Dialect) (clock : Calendar.DateTime) (inline count : Bool) :
    q.render cat d clock inline count = .error f := by
  simp [Query.render, faulted]
  rfl

/-! ## Hooks keep the fault -/

@[simp] theorem Query.withTarget_fault (q : Query) (v : Value) : (q.withTarget v).fault = q.fault := by
  unfold Query.withTarget
  split <;> rfl

theorem runHookActions_fault {cat : Catalog} {bound : Bool} (actions : List HookAction) (q : Query)
    (v : Value) (faulted : q.fault.isSome) {q' : Query}
    (ran : runHookActions cat bound actions q v = .ok q') : q'.fault = q.fault := by
  fun_induction runHookActions cat bound actions q v with
  | case1 q v =>
    cases ran
    rfl
  | case2 attr x rest q v ih =>
    -- setting a field of the target changes the bound instance, never the fault
    obtain ⟨w, -, later⟩ := ok_of_bind_ok ran
    have kept : (if bound then q.withTarget w else q).fault = q.fault := by
      split <;> simp
    rw [ih w (by rw [kept]; exact faulted) later, kept]
  | case3 steps rest q v ih =>
    -- steps on a query with a fault give it back as it was
    obtain ⟨q1, stepped, later⟩ := ok_of_bind_ok ran
    rw [Query.run_of_faulted faulted stepped] at later
    exact ih q faulted later
  | case4 => cases ran

theorem Query.callHook_fault {q : Query} (faulted : q.fault.isSome) (cat : Catalog) (name : String)
    {q' : Query} (ran : (q.callHook cat name).2 = .ok q') : q'.fault = q.fault := by
  unfold Query.callHook at ran
  split at ran
  · split at ran
    · exact runHookActions_fault _ q _ faulted ran
    · split at ran <;> cases ran <;> rfl
  · cases ran
    rfl

/-! ## Work in a session -/

/-- Work that fails with a fault and leaves the session as it was: no statement reaches the
connection and no hook is recorded. -/
def SessionM.FailsWith {α : Type} (m : SessionM α) (f : Fault) : Prop :=
  ∀ s, m.run.run s = (.error f, s)

/-- When a scan of a query with the fault `f` raises it untouched: a query with no model and no
destination would fail for that first, so `f` must be that very fault; and a query with a table
calls the hook before a select first, which must record nothing and raise nothing but `f`. -/
def Query.ScanRaisesRecorded (cat : Catalog) (q : Query) (dests : List Value) (f : Fault) : Prop :=
  (dests = [] ∧ q.model = none → f = .configuration "scan requires a destination or a model") ∧
  (¬(dests = [] ∧ q.model = none) → q.schema.isSome = true →
    (q.callHook cat "before_select").1 = [] ∧
      ∀ x, (q.callHook cat "before_select").2 = .error x → x = f)

theorem SessionM.FailsWith.bind {α β : Type} {f : Fault} {m : SessionM α} {k : α → SessionM β}
    (fails : m.FailsWith f) : (m >>= k).FailsWith f := by
  intro s
  simp only [ExceptT.run_bind, StateT.run_bind, fails s]
  rfl

namespace Session

variable {q : Query} {f : Fault} {β : Type}

theorem statementOf_of_faulted (faulted : q.fault = some f) : (statementOf q).FailsWith f := by
  intro s
  simp only [statementOf, Query.toSql, Query.render_of_faulted faulted]
  rfl

theorem runQuery_of_faulted (faulted : q.fault = some f) (e : Executor) :
    (runQuery e q).FailsWith f :=
  (statementOf_of_faulted faulted).bind

theorem count_of_faulted (faulted : q.fault = some f) (e : Executor) : (count e q).FailsWith f := by
  intro s
  -- a count is written from the select without its ordering, which keeps the fault
  have kept : q.unordered.fault = some f := by
    unfold Query.unordered
    split <;> exact faulted
  simp only [count, Query.countSql, Query.render_of_faulted kept]
  rfl

theorem exists_of_faulted (faulted : q.fault = some f) (e : Executor) :
    («exists» e q).FailsWith f :=
  (statementOf_of_faulted faulted).bind

/-- A writing query checks its fault before its hook. -/
theorem write_of_faulted (faulted : q.fault = some f) (before after : String)
    (run : Executor → Query → SessionM (Cursor × List Value)) (e : Executor) :
    (write before after run e q).FailsWith f := by
  intro s
  simp only [write, faulted]
  rfl

theorem run_get_bind (k : Session → SessionM β) (s : Session) :
    ((get : SessionM Session) >>= k).run.run s = (k s).run.run s := rfl

/-- Calling a hook records the hooks that ran, whatever it gives. -/
theorem callHook_run (name : String) (q : Query) (s : Session) :
    (callHook name q).run.run s =
      ((q.callHook s.catalog name).2,
        { s with hookCalls := s.hookCalls ++ (q.callHook s.catalog name).1 }) := by
  rcases hook : q.callHook s.catalog name with ⟨calls, outcome⟩
  simp only [callHook, cat, bind_assoc, pure_bind, run_get_bind, hook]
  cases outcome <;> rfl

theorem runQuery_bind_of_faulted (faulted : q.fault = some f) (e : Executor) (k : Cursor → SessionM β)
    (s : Session) : (runQuery e q >>= k).run.run s = (.error f, s) :=
  (runQuery_of_faulted faulted e).bind s

/-- A hook called before the statement of a query with a fault is recorded, and then the hook's
own fault or the query's is raised. -/
theorem callHook_bind_runQuery (faulted : q.fault = some f) (e : Executor) (name : String)
    (k : Query → Cursor → SessionM β) (s : Session) :
    (callHook name q >>= fun q1 => runQuery e q1 >>= k q1).run.run s =
      ((q.callHook s.catalog name).2.bind (fun _ => .error f),
        { s with hookCalls := s.hookCalls ++ (q.callHook s.catalog name).1 }) := by
  rw [ExceptT.run_bind, StateT.run_bind, callHook_run]
  cases hooked : (q.callHook s.catalog name).2 with
  | error x => rfl
  | ok q1 =>
    have kept : q1.fault = some f := by
      rw [Query.callHook_fault (by rw [faulted]; rfl) s.catalog name hooked, faulted]
    exact runQuery_bind_of_faulted kept e (k q1) _

/-- What a scan of a query with a fault does: without a destination and a model it fails for
that; with a table it records the hook before a select and raises the hook's fault or the
query's; else it raises the query's fault. -/
theorem scan_run_of_faulted (faulted : q.fault = some f) (e : Executor) (dests : List Value)
    (s : Session) :
    (scan e q dests).run.run s =
      if dests = [] ∧ q.model = none then
        (.error (.configuration "scan requires a destination or a model"), s)
      else if q.schema.isSome then
        ((q.callHook s.catalog "before_select").2.bind (fun _ => .error f),
          { s with hookCalls := s.hookCalls ++ (q.callHook s.catalog "before_select").1 })
      else (.error f, s) := by
  unfold scan
  -- the destination is picked first, then the hook is called when the query has a table
  cases dests with
  | nil =>
    cases model : q.model with
    | none =>
      simp only [List.isEmpty_nil, Bool.not_true, Bool.false_eq_true, if_false, and_self, if_true]
      rfl
    | some m =>
      cases schema : q.schema with
      | none =>
        simp only [List.isEmpty_nil, Bool.not_true, Bool.false_eq_true, if_false, pure_bind,
          Option.isSome_none, reduceCtorEq, and_false]
        exact runQuery_bind_of_faulted faulted e _ s
      | some t =>
        simp only [List.isEmpty_nil, Bool.not_true, Bool.false_eq_true, if_false, pure_bind,
          Option.isSome_some, reduceCtorEq, and_false, if_true]
        exact callHook_bind_runQuery faulted e _ _ s
  | cons d rest =>
    cases schema : q.schema with
    | none =>
      simp only [List.isEmpty_cons, Bool.not_false, if_true, pure_bind, Option.isSome_none,
        Bool.false_eq_true, if_false, reduceCtorEq, false_and]
      exact runQuery_bind_of_faulted faulted e _ s
    | some t =>
      simp only [List.isEmpty_cons, Bool.not_false, if_true, pure_bind, Option.isSome_some,
        reduceCtorEq, false_and, if_false]
      exact callHook_bind_runQuery faulted e _ _ s

/-- Pairs that a run gives are equal when their parts are. -/
theorem run_pair_eq_iff {α σ : Type} {a b : α} {s t : σ} :
    @Eq (Id (α × σ)) (a, s) (b, t) ↔ a = b ∧ s = t :=
  Prod.ext_iff

theorem hookCalls_append_eq_iff (s : Session) (calls : List HookCall) :
    { s with hookCalls := s.hookCalls ++ calls } = s ↔ calls = [] := by
  constructor
  · intro same
    have kept := congrArg Session.hookCalls same
    simpa using kept
  · rintro rfl
    simp

theorem bind_error_eq_iff {α γ : Type} (outcome : Except Fault α) (f : Fault) :
    outcome.bind (fun _ => (.error f : Except Fault γ)) = .error f ↔
      ∀ x, outcome = .error x → x = f := by
  cases outcome <;> simp [Except.bind, Except.error.injEq]

/-- A scan of a query with a fault raises it and leaves the session as it was exactly when
`Query.ScanRaisesRecorded` holds. -/
theorem scan_fails_with_iff (faulted : q.fault = some f) (e : Executor) (dests : List Value)
    (s : Session) :
    (scan e q dests).run.run s = (.error f, s) ↔ q.ScanRaisesRecorded s.catalog dests f := by
  rw [scan_run_of_faulted faulted, Query.ScanRaisesRecorded]
  by_cases unplaced : dests = [] ∧ q.model = none
  · rw [if_pos unplaced]
    simp only [run_pair_eq_iff, Except.error.injEq, and_true, unplaced, true_implies,
      not_true_eq_false, false_implies]
    exact eq_comm
  · rw [if_neg unplaced]
    cases tabled : q.schema.isSome with
    | false => simp [unplaced]
    | true =>
      simp only [if_true, run_pair_eq_iff, hookCalls_append_eq_iff, bind_error_eq_iff, unplaced,
        false_implies, not_false_eq_true, true_implies, true_and]
      exact and_comm

end Session

/-! ## Every call and every way out -/

/-- A query's recorded fault is final and is what it raises: every later call gives the query
back unchanged or fails outright, a call the query accepts gives it back, rendering raises the
fault, and in a session the statement, `count`, `exists`, running and writing raise it and leave
the session as it was. A scan does so exactly when `Query.ScanRaisesRecorded` holds. -/
theorem first_recorded_fault_is_raised (q : Query) (f : Fault) :
    q.fault = some f →
      (∀ fuel cat step q', runStep fuel cat q step = .ok q' → q' = q) ∧
      (∀ cat steps q', q.run cat steps = .ok q' → q' = q) ∧
      (∀ fuel cat m args sig, signature? q.kind m = some sig →
        (sig.chained = true ∨ sig.check m args.length = .ok ()) → Value.plansList args = [] →
          runStep (fuel + 1) cat q (.call m args) = .ok q) ∧
      (∀ cat d clock inline count, q.render cat d clock inline count = .error f) ∧
      (∀ e, (Session.statementOf q).FailsWith f ∧ (Session.runQuery e q).FailsWith f ∧
        (Session.count e q).FailsWith f ∧ (Session.exists e q).FailsWith f ∧
        (Session.insert e q).FailsWith f ∧ (Session.update e q).FailsWith f ∧
        (Session.delete e q).FailsWith f) ∧
      (∀ e dests s, (Session.scan e q dests).run.run s = (.error f, s) ↔
        q.ScanRaisesRecorded s.catalog dests f) := by
  intro faulted
  have recorded : q.fault.isSome := by rw [faulted]; rfl
  refine ⟨fun _ _ _ _ ran => runStep_of_faulted recorded ran,
    fun _ _ _ ran => Query.run_of_faulted recorded ran,
    fun fuel cat _ _ _ found accepted plain => runStep_call_of_faulted recorded fuel cat found accepted plain,
    Query.render_of_faulted faulted, fun e => ?_, Session.scan_fails_with_iff faulted⟩
  exact ⟨Session.statementOf_of_faulted faulted, Session.runQuery_of_faulted faulted e,
    Session.count_of_faulted faulted e, Session.exists_of_faulted faulted e,
    Session.write_of_faulted faulted _ _ _ e, Session.write_of_faulted faulted _ _ _ e,
    Session.write_of_faulted faulted _ _ _ e⟩

/-- A select that recorded a join condition with no join renders, counts and checks for rows by
raising that fault. -/
theorem joinless_select_raises_recorded_fault :
    let q : Query := { clauses := .select {}, fault := some (.configuration "query has no joins") }
    q.fault = some (.configuration "query has no joins") ∧
      (∀ cat d clock inline count,
        q.render cat d clock inline count = .error (.configuration "query has no joins")) ∧
      (Session.count .database q).FailsWith (.configuration "query has no joins") ∧
      (Session.exists .database q).FailsWith (.configuration "query has no joins") := by
  intro q
  have raised := first_recorded_fault_is_raised q (.configuration "query has no joins") rfl
  exact ⟨rfl, raised.2.2.2.1, (raised.2.2.2.2.1 .database).2.2.1, (raised.2.2.2.2.1 .database).2.2.2.1⟩

/-- A select with a recorded fault, no model and no destination: its scan fails because it has
nowhere to put the rows, not with the recorded fault. -/
theorem unbound_scan_hides_recorded_fault :
    (Session.scan .database
        { clauses := .select {}, fault := some (.configuration "query has no joins") } []).run.run
        default =
      (.error (.configuration "scan requires a destination or a model"), default) := by
  rw [Session.scan_run_of_faulted rfl]
  simp

end SqlMapper
