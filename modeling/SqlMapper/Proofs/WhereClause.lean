import SqlMapper.Query.Render

/-!
# Reading the WHERE clause

A query's WHERE clause is written from three sources: the conditions added by its calls, each
carrying the separator that joins it to the conditions before it; the condition on the keys of the
bound instances, added last when filtering by key; and the test of the soft-delete column, written
after the conditions. Each condition is written in parentheses and the test is written as it is.

The clause is read here the way SQL reads it: every condition and the test are atoms, each
separator must spell `AND` or `OR`, and `AND` binds tighter than `OR`. A reading is the list of
the clause's runs of atoms joined by `AND`; the clause holds when all atoms of some run do
(`holdsUnder`). Atoms are numbered in the order they are written, so the reading is about the
shape of the clause and not about what each condition says.

The main statement, `where_clause_reads_as_intended`, says first that the clause written is the
clause of these pieces (`Query.writeWhere_eq_writeClause`), then exactly when it denotes the
intended combination: the query's conditions combined by their separators, the key condition
joined by `AND`, and the soft-delete test joined by `AND`. That happens exactly when every
separator spells a connective, the key condition stands alone, and the conditions are joined by
`AND` only whenever there is a soft-delete test (`Query.WhereReadable`). The key condition
carries the empty separator, so after another condition it is written with no connective at all,
and the test is not parenthesized against an `OR` before it. Finally, a query that must have a
condition and has none fails while writing its clause.
-/

set_option autoImplicit false

namespace SqlMapper

/-- A connective between conditions. -/
inductive Connective where
  | and
  | or
  deriving DecidableEq, Repr

/-- The connective a separator spells: `AND` or `OR`, with blanks around it and case ignored.
Any other text, the empty text among them, joins no conditions. -/
def Connective.ofText? (text : String) : Option Connective :=
  let word := ((text.toList.dropWhile Char.isWhitespace).reverse.dropWhile Char.isWhitespace).reverse
  match word.map Char.toUpper with
  | ['A', 'N', 'D'] => some .and
  | ['O', 'R'] => some .or
  | _ => none

/-- The connective that the separator of a condition spells, if it has a separator that spells
one. -/
def Fragment.connective? (f : Fragment) : Option Connective :=
  match f.sep? with
  | .ok text => Connective.ofText? text
  | .error _ => none

/-- A piece of a WHERE clause as it is written. -/
inductive ClausePiece where
  /-- The separator of a condition, written before it. -/
  | separatorOf (f : Fragment)
  /-- Fixed text between two parts of the clause. -/
  | joiner (text : String)
  /-- A condition, written in parentheses. -/
  | condition (f : Fragment)
  /-- A test, written as it is. -/
  | test (f : Fragment)

namespace ClausePiece

/-- Writes a piece. -/
def write (p : Painter) (fr : Frame) : ClausePiece → SqlM Unit
  | .separatorOf f => do fr.write (← f.sep?)
  | .joiner text => fr.write text
  | .condition f => do
    fr.write "("
    p.fragment fr f
    fr.write ")"
  | .test f => p.fragment fr f

end ClausePiece

/-- Conditions that follow another one: each separator, then the condition. -/
def separated (conds : List Fragment) : List ClausePiece :=
  conds.flatMap fun c => [.separatorOf c, .condition c]

/-- The pieces of conditions, each after the first preceded by its own separator. -/
def conditionPieces : List Fragment → List ClausePiece
  | [] => []
  | c :: rest => .condition c :: separated rest

/-- The pieces of a clause of conditions and a test, joined to them by `AND`. -/
def clausePieces (conds : List Fragment) : Option Fragment → List ClausePiece
  | none => conditionPieces conds
  | some t => conditionPieces conds ++ (if conds.isEmpty then [] else [.joiner " AND "]) ++ [.test t]

/-- What reading a clause sees of a piece: an atom by its number, or the connective a
separator spells (none when it spells no connective). -/
inductive ClauseToken where
  | atom (n : Nat)
  | connective (c : Option Connective)
  deriving DecidableEq, Repr

/-- The tokens of pieces, their conditions and tests numbered in order from `n`. -/
def tokensFrom : Nat → List ClausePiece → List ClauseToken
  | _, [] => []
  | n, .separatorOf f :: rest => .connective f.connective? :: tokensFrom n rest
  | n, .joiner text :: rest => .connective (Connective.ofText? text) :: tokensFrom n rest
  | n, .condition _ :: rest => .atom n :: tokensFrom (n + 1) rest
  | n, .test _ :: rest => .atom n :: tokensFrom (n + 1) rest

/-- Reads the rest of a clause, `AND` binding tighter than `OR`: `current` is the run being read
(latest atom first), `done` the runs before it (latest first). Each connective must be followed
by an atom. -/
def readRuns (current : List Nat) (done : List (List Nat)) : List ClauseToken → Option (List (List Nat))
  | [] => some (current :: done)
  | .connective (some .and) :: .atom n :: rest => readRuns (n :: current) done rest
  | .connective (some .or) :: .atom n :: rest => readRuns [n] (current :: done) rest
  | _ => none

/-- Reads a clause: atoms joined by connectives, as runs of atoms joined by `AND`. The empty
clause restricts nothing. -/
def readClause : List ClauseToken → Option (List (List Nat))
  | [] => some [[]]
  | .atom n :: rest => readRuns [n] [] rest
  | _ => none

/-- Whether a clause read as runs holds when the atoms hold as `ρ` says: all atoms of some run
hold. -/
def holdsUnder (ρ : Nat → Bool) (runs : List (List Nat)) : Bool :=
  runs.any fun run => run.all ρ

/-- Pieces denote a meaning: they read as a clause that holds exactly when the meaning does. -/
def Denotes (pieces : List ClausePiece) (meaning : (Nat → Bool) → Bool) : Prop :=
  ∃ runs, readClause (tokensFrom 0 pieces) = some runs ∧ ∀ ρ, holdsUnder ρ runs = meaning ρ

namespace Query

/-- The conditions of a query's WHERE clause: those its calls added, and the condition on the
keys of the bound instances last when it filters by key. -/
def whereConditions (q : Query) : Except Fault (List Fragment) :=
  if q.wherePk then return q.wheres ++ [← q.pkCondition] else pure q.wheres

/-- The fault of a statement that needs a condition and has none. -/
def missingCondition (q : Query) : Fault :=
  .configuration (q.className ++ " requires at least one WHERE condition (use where_pk or where(\"TRUE\"))")

/-- The WHERE clause written piece by piece. -/
def writeClause (p : Painter) (fr : Frame) (q : Query) (required : Bool) : SqlM Unit := do
  let conds ← q.whereConditions
  if required && conds.isEmpty then throw q.missingCondition
  if conds.isEmpty && q.softDeleteCondition.isNone then return
  fr.write " WHERE "
  (clausePieces conds q.softDeleteCondition).forM (·.write p fr)

/-- The WHERE clause of a query over the conditions `conds` denotes what its calls ask for: its
own conditions combined by their separators, the key condition (numbered after them) joined by
`AND`, and the soft-delete test (numbered last) joined by `AND`. -/
def IntendedWhere (q : Query) (conds : List Fragment) : Prop :=
  ∃ own, readClause (tokensFrom 0 (conditionPieces q.wheres)) = some own ∧
    Denotes (clausePieces conds q.softDeleteCondition) fun ρ =>
      holdsUnder ρ own && (!q.wherePk || ρ q.wheres.length) &&
        (q.softDeleteCondition.isNone || ρ conds.length)

/-- When the WHERE clause reads as intended: every separator after the first condition spells a
connective, the key condition is the only condition when there is one, and with a soft-delete
test the conditions are joined by `AND` only. -/
def WhereReadable (q : Query) : Prop :=
  (∀ c ∈ q.wheres.drop 1, c.connective?.isSome) ∧
  (q.wherePk = true → q.wheres = []) ∧
  (q.softDeleteCondition.isSome → ∀ c ∈ q.wheres.drop 1, c.connective? = some .and)

end Query

/-- A writer that stops with a fault, whatever was written before it. -/
def SqlM.Fails {α : Type} (m : SqlM α) : Prop :=
  ∀ pieces, ∃ f, (m.run.run pieces).1 = .error f

/-! ## The clause written -/

section Written

variable (p : Painter) (fr : Frame)

/-- A loop over conditions that follow another one, whose body writes a condition's separator
and the condition, writes the separated pieces. -/
theorem forIn_separated {body : Fragment → Bool → SqlM (ForInStep Bool)}
    (step : ∀ c, body c false = (do
      (ClausePiece.separatorOf c).write p fr
      (ClausePiece.condition c).write p fr
      pure (.yield false)))
    (rest : List Fragment) :
    forIn rest false body = (do
      (separated rest).forM (·.write p fr)
      pure false) := by
  induction rest with
  | nil => simp [separated]
  | cons c rest ih =>
    rw [List.forIn_cons, step c]
    simp only [bind_assoc, pure_bind, ih, separated, List.flatMap_cons, List.cons_append,
      List.nil_append, List.forM_eq_forM, List.forM_cons]

/-- Writing conditions writes their pieces: the first condition alone, then each separator
before its condition. -/
theorem Painter.conditions_eq_forM (conds : List Fragment) :
    p.conditions fr conds = (conditionPieces conds).forM (·.write p fr) := by
  unfold Painter.conditions
  cases conds with
  | nil => simp [conditionPieces]
  | cons c rest =>
    dsimp only
    rw [List.forIn_cons]
    simp only [Bool.not_true, Bool.false_eq_true, if_false, bind_assoc, pure_bind]
    rw [forIn_separated p fr (fun c => by simp [ClausePiece.write, bind_assoc]) rest]
    simp [conditionPieces, ClausePiece.write, bind_assoc]

/-- The pieces of a clause write the conditions, then the test after an `AND` when there are
conditions before it. -/
theorem forM_clausePieces (conds : List Fragment) (test : Option Fragment) :
    (clausePieces conds test).forM (·.write p fr) = (do
      p.conditions fr conds
      if let some d := test then
        if !conds.isEmpty then fr.write " AND "
        p.fragment fr d) := by
  rw [Painter.conditions_eq_forM]
  cases test with
  | none => simp only [clausePieces, bind_pure_unit]
  | some t =>
    cases conds with
    | nil => simp [clausePieces, conditionPieces, ClausePiece.write]
    | cons c rest => simp [clausePieces, List.forM_append, ClausePiece.write]

/-- The WHERE clause a query writes is the clause of its pieces. -/
theorem Query.writeWhere_eq_writeClause (q : Query) (required : Bool) :
    q.writeWhere p fr required = q.writeClause p fr required := by
  unfold Query.writeWhere Query.writeClause Query.whereConditions
  simp only [forM_clausePieces]
  -- what is left differs only in where the conditions come from
  cases q.wherePk <;> cases q.pkCondition <;> rfl

end Written

/-! ## Reading runs -/

@[simp] theorem connective_ofText_and : Connective.ofText? " AND " = some .and := by decide

@[simp] theorem connective_ofText_empty : Connective.ofText? "" = none := by decide

@[simp] theorem tokensFrom_separated_nil (n : Nat) : tokensFrom n (separated []) = [] := rfl

@[simp] theorem tokensFrom_separated_cons (n : Nat) (c : Fragment) (rest : List Fragment) :
    tokensFrom n (separated (c :: rest)) =
      .connective c.connective? :: .atom n :: tokensFrom (n + 1) (separated rest) := rfl

/-- The tokens of separated conditions followed by more pieces: the more pieces' atoms are
numbered after the conditions. -/
theorem tokensFrom_separated_append (n : Nat) (rest : List Fragment) (more : List ClausePiece) :
    tokensFrom n (separated rest ++ more) =
      tokensFrom n (separated rest) ++ tokensFrom (n + rest.length) more := by
  induction rest generalizing n with
  | nil => rfl
  | cons c rest ih =>
    have shifted := ih (n + 1)
    simp only [separated, List.flatMap_cons, List.cons_append, List.nil_append] at shifted ⊢
    simp only [tokensFrom, shifted, List.length_cons, List.cons_append]
    rw [Nat.add_right_comm, Nat.add_assoc]

/-- A reading that ends where more tokens begin goes on from the runs it reached. -/
theorem readRuns_append {current : List Nat} {done runs : List (List Nat)} {tokens : List ClauseToken}
    (read : readRuns current done tokens = some runs) (more : List ClauseToken) :
    ∃ run rest, runs = run :: rest ∧ readRuns current done (tokens ++ more) = readRuns run rest more := by
  fun_induction readRuns current done tokens with
  | case1 current done =>
    cases read
    exact ⟨current, done, rfl, rfl⟩
  | case2 current done n rest ih => exact ih read
  | case3 current done n rest ih => exact ih read
  | case4 => simp at read

/-- A reading keeps every run finished before it. -/
theorem readRuns_done_length {current : List Nat} {done : List (List Nat)} {tokens : List ClauseToken}
    {run : List Nat} {rest : List (List Nat)} (read : readRuns current done tokens = some (run :: rest)) :
    done.length ≤ rest.length := by
  fun_induction readRuns current done tokens generalizing run rest with
  | case1 current done =>
    cases read
    exact Nat.le_refl _
  | case2 current done n more ih => exact ih read
  | case3 current done n more ih =>
    have longer := ih read
    simp only [List.length_cons] at longer
    omega
  | case4 => simp at read

/-- Separated conditions read exactly when each separator spells a connective. -/
theorem readRuns_separated_isSome (rest : List Fragment) :
    ∀ (n : Nat) (current : List Nat) (done : List (List Nat)),
      (readRuns current done (tokensFrom n (separated rest))).isSome ↔
        ∀ c ∈ rest, c.connective?.isSome := by
  induction rest with
  | nil => intro n current done; simp [readRuns]
  | cons c rest ih =>
    intro n current done
    cases joined : c.connective? with
    | none => simp [joined, readRuns]
    | some k =>
      cases k <;> simp [joined, readRuns, ih]

/-- Separated conditions joined by `AND` only extend the current run and finish none. -/
theorem readRuns_separated_and (rest : List Fragment) (conjoined : ∀ c ∈ rest, c.connective? = some .and) :
    ∀ (n : Nat) (current : List Nat) (done : List (List Nat)),
      ∃ run, readRuns current done (tokensFrom n (separated rest)) = some (run :: done) ∧
        ∀ ρ, run.all ρ = (current.all ρ && (List.range' n rest.length).all ρ) := by
  induction rest with
  | nil => intro n current done; exact ⟨current, rfl, fun ρ => by simp⟩
  | cons c rest ih =>
    intro n current done
    have first := conjoined c List.mem_cons_self
    obtain ⟨run, read, holds⟩ := ih (fun d mem => conjoined d (List.mem_cons_of_mem c mem)) (n + 1)
      (n :: current) done
    refine ⟨run, by simp [first, readRuns, read], fun ρ => ?_⟩
    rw [holds ρ]
    simp [List.range'_succ, Bool.and_assoc, Bool.and_left_comm]

/-- Separated conditions of which one is joined by `OR` finish a run before the last. -/
theorem readRuns_separated_or (rest : List Fragment) (joined : ∀ c ∈ rest, c.connective?.isSome)
    (disjoined : ∃ c ∈ rest, c.connective? = some .or) :
    ∀ (n : Nat) (current : List Nat) (done : List (List Nat)) (run : List Nat) (runs : List (List Nat)),
      readRuns current done (tokensFrom n (separated rest)) = some (run :: runs) → runs ≠ [] := by
  induction rest with
  | nil => simp at disjoined
  | cons c rest ih =>
    intro n current done run runs read
    cases spelled : c.connective? with
    | none => simp [spelled] at joined
    | some k =>
      cases k with
      | and =>
        simp only [tokensFrom_separated_cons, spelled, readRuns] at read
        have later : ∃ d ∈ rest, d.connective? = some .or := by
          obtain ⟨d, mem, isOr⟩ := disjoined
          rcases List.mem_cons.mp mem with same | mem
          · rw [same, spelled] at isOr
            cases isOr
          · exact ⟨d, mem, isOr⟩
        exact ih (fun d mem => joined d (List.mem_cons_of_mem c mem)) later _ _ _ _ _ read
      | or =>
        simp only [tokensFrom_separated_cons, spelled, readRuns] at read
        have longer := readRuns_done_length read
        simp only [List.length_cons] at longer
        exact List.ne_nil_of_length_pos (by omega)

/-- Every atom a reading of separated conditions holds comes before `bound` when those it
starts from do and the conditions are numbered below it. -/
theorem readRuns_separated_below (bound : Nat) (rest : List Fragment) :
    ∀ (n : Nat) (current : List Nat) (done runs : List (List Nat)), n + rest.length ≤ bound →
      (∀ a ∈ current, a < bound) → (∀ r ∈ done, ∀ a ∈ r, a < bound) →
      readRuns current done (tokensFrom n (separated rest)) = some runs →
      ∀ r ∈ runs, ∀ a ∈ r, a < bound := by
  induction rest with
  | nil =>
    intro n current done runs _ below finished read
    simp only [tokensFrom_separated_nil, readRuns, Option.some.injEq] at read
    subst read
    intro r mem
    rcases List.mem_cons.mp mem with rfl | mem
    · exact below
    · exact finished r mem
  | cons c rest ih =>
    intro n current done runs fits below finished read
    simp only [List.length_cons] at fits
    cases spelled : c.connective? with
    | none => simp [spelled, readRuns] at read
    | some k =>
      cases k with
      | and =>
        simp only [tokensFrom_separated_cons, spelled, readRuns] at read
        refine ih (n + 1) (n :: current) done runs (by omega) ?_ finished read
        intro a mem
        rcases List.mem_cons.mp mem with rfl | mem
        · omega
        · exact below a mem
      | or =>
        simp only [tokensFrom_separated_cons, spelled, readRuns] at read
        refine ih (n + 1) [n] (current :: done) runs (by omega) (by simp; omega) ?_ read
        intro r mem
        rcases List.mem_cons.mp mem with rfl | mem
        · exact below
        · exact finished r mem

/-! ## The clause of a query -/

/-- The condition on the keys of the bound instances carries the empty separator. -/
theorem Query.pkCondition_connective {q : Query} {k : Fragment} (made : q.pkCondition = .ok k) :
    k.connective? = none := by
  suffices shape : ∃ t args, k = .template t args "" by
    obtain ⟨t, args, rfl⟩ := shape
    rfl
  unfold Query.pkCondition at made
  simp only [bind, Except.bind, pure, Except.pure, throw, throwThe, MonadExceptOf.throw] at made
  repeat' split at made
  all_goals
    cases made
    try exact ⟨_, _, rfl⟩

/-- The tokens of a clause whose conditions start with `c`. -/
theorem tokensFrom_clausePieces_cons (c : Fragment) (rest : List Fragment) (test : Option Fragment) :
    tokensFrom 0 (clausePieces (c :: rest) test) =
      .atom 0 :: (tokensFrom 1 (separated rest) ++
        match test with
        | none => []
        | some _ => [ClauseToken.connective (some .and), ClauseToken.atom (rest.length + 1)]) := by
  cases test with
  | none => simp [clausePieces, conditionPieces, tokensFrom]
  | some t =>
    simp only [clausePieces, conditionPieces, List.cons_append, List.isEmpty_cons, Bool.false_eq_true,
      if_false, List.append_assoc, tokensFrom, tokensFrom_separated_append]
    simp [tokensFrom, Nat.add_comm]

/-- A reading stops at a connective that is none of `AND` and `OR`. -/
theorem readRuns_bare_after {current : List Nat} {done runs : List (List Nat)} {tokens : List ClauseToken}
    (read : readRuns current done tokens = some runs) (n : Nat) (more : List ClauseToken) :
    readRuns current done (tokens ++ .connective none :: .atom n :: more) = none := by
  obtain ⟨run, finished, -, onward⟩ := readRuns_append read (.connective none :: .atom n :: more)
  rw [onward]
  simp [readRuns]

theorem separated_append (conds more : List Fragment) :
    separated (conds ++ more) = separated conds ++ separated more :=
  List.flatMap_append

/-- After other conditions, the key condition is written with no connective before it, so the
clause does not read. -/
theorem readClause_key_after {c k : Fragment} {rest : List Fragment} {own : List (List Nat)}
    (bare : k.connective? = none) (read : readRuns [0] [] (tokensFrom 1 (separated rest)) = some own)
    (test : Option Fragment) :
    readClause (tokensFrom 0 (clausePieces (c :: (rest ++ [k])) test)) = none := by
  have tokens : tokensFrom 1 (separated (rest ++ [k])) =
      tokensFrom 1 (separated rest) ++ [ClauseToken.connective none, ClauseToken.atom (rest.length + 1)] := by
    rw [separated_append, tokensFrom_separated_append, tokensFrom_separated_cons, bare, Nat.add_comm]
    rfl
  rw [tokensFrom_clausePieces_cons, tokens]
  simp only [readClause, List.append_assoc, List.cons_append, List.nil_append]
  exact readRuns_bare_after read _ _

/-- A query's own conditions are read from the first one on. -/
theorem readClause_conditionPieces_cons (c : Fragment) (rest : List Fragment) :
    readClause (tokensFrom 0 (conditionPieces (c :: rest))) = readRuns [0] [] (tokensFrom 1 (separated rest)) :=
  rfl

/-- The query's own conditions followed by a test mean "the conditions, and the test" exactly
when every condition after the first is joined by `AND`: one `OR` among them leaves the test
guarding only the last run. -/
theorem denotes_tested_iff {c t : Fragment} {rest : List Fragment} {own : List (List Nat)}
    (read : readRuns [0] [] (tokensFrom 1 (separated rest)) = some own) :
    Denotes (clausePieces (c :: rest) (some t)) (fun ρ => holdsUnder ρ own && ρ (rest.length + 1)) ↔
      ∀ d ∈ rest, d.connective? = some .and := by
  obtain ⟨run, finished, rfl, onward⟩ :=
    readRuns_append read [.connective (some .and), .atom (rest.length + 1)]
  have clause : readClause (tokensFrom 0 (clausePieces (c :: rest) (some t))) =
      some (((rest.length + 1) :: run) :: finished) := by
    rw [tokensFrom_clausePieces_cons]
    simp [readClause, onward, readRuns]
  constructor
  · rintro ⟨runs, reads, means⟩
    rw [clause, Option.some.injEq] at reads
    subst reads
    have joined : ∀ d ∈ rest, d.connective?.isSome :=
      (readRuns_separated_isSome rest 1 [0] []).mp (by simp [read])
    intro d mem
    cases spelled : d.connective? with
    | none => simpa [spelled] using joined d mem
    | some k =>
      cases k with
      | and => rfl
      | or =>
        -- the test guards only the last run: an earlier run holds with the test false
        exfalso
        obtain ⟨r, earlierRun⟩ := List.exists_mem_of_ne_nil finished
          (readRuns_separated_or rest joined ⟨d, mem, spelled⟩ 1 [0] [] run finished read)
        have below := readRuns_separated_below (rest.length + 1) rest 1 [0] [] _ (by omega)
          (by simp) (by simp) read
        have earlier : finished.any (fun r => r.all fun a => decide (a < rest.length + 1)) = true :=
          List.any_eq_true.mpr ⟨r, earlierRun, List.all_eq_true.mpr fun a within =>
            decide_eq_true (below r (List.mem_cons_of_mem _ earlierRun) a within)⟩
        have differs := means fun a => decide (a < rest.length + 1)
        have holds : holdsUnder (fun a => decide (a < rest.length + 1))
            (((rest.length + 1) :: run) :: finished) = true := by
          rw [holdsUnder, List.any_cons, earlier, Bool.or_true]
        have fails : (holdsUnder (fun a => decide (a < rest.length + 1)) (run :: finished) &&
            decide (rest.length + 1 < rest.length + 1)) = false := by
          rw [decide_eq_false (Nat.lt_irrefl _), Bool.and_false]
        rw [holds] at differs
        exact Bool.noConfusion (differs.trans fails)
  · intro conjoined
    obtain ⟨single, reads, holds⟩ := readRuns_separated_and rest conjoined 1 [0] []
    rw [read, Option.some.injEq, List.cons.injEq] at reads
    obtain ⟨rfl, rfl⟩ := reads
    refine ⟨_, clause, fun ρ => ?_⟩
    simp [holdsUnder, Bool.and_comm]

/-- The clause written means the conjunction of the query's own conditions, the condition on the
keys and the visibility test exactly when the clause is readable: the conditions after the first
each carry a connective, the keys are the only condition, and no `OR` stands among the query's own
conditions when a test follows them. -/
theorem Query.intendedWhere_iff_readable {q : Query} {conds : List Fragment}
    (built : q.whereConditions = .ok conds) :
    q.IntendedWhere conds ↔ q.WhereReadable := by
  unfold Query.IntendedWhere Query.WhereReadable
  unfold Query.whereConditions at built
  cases keyed : q.wherePk with
  | true =>
    cases made : q.pkCondition with
    | error e => simp [keyed, made, bind, Except.bind] at built
    | ok k =>
      simp only [keyed, if_true, made, bind, Except.bind, pure, Except.pure, Except.ok.injEq] at built
      subst built
      cases own : q.wheres with
      | nil =>
        -- the key condition alone, with the test after it when there is one
        refine iff_of_true ⟨[[]], rfl, ?_⟩ (by simp)
        cases q.softDeleteCondition with
        | none => exact ⟨[[0]], rfl, fun ρ => by simp [holdsUnder]⟩
        | some t => exact ⟨[[1, 0]], rfl, fun ρ => by simp [holdsUnder, Bool.and_comm]⟩
      | cons c rest =>
        refine iff_of_false ?_ (by simp)
        rintro ⟨own, read, runs, reads, -⟩
        rw [readClause_conditionPieces_cons] at read
        rw [List.cons_append, readClause_key_after (q.pkCondition_connective made) read] at reads
        cases reads
  | false =>
    simp only [keyed, Bool.false_eq_true, if_false, pure, Except.pure, Except.ok.injEq] at built
    subst built
    cases own : q.wheres with
    | nil =>
      refine iff_of_true ⟨[[]], rfl, ?_⟩ (by simp)
      cases q.softDeleteCondition with
      | none => exact ⟨[[]], rfl, fun ρ => by simp [holdsUnder]⟩
      | some t => exact ⟨[[0]], rfl, fun ρ => by simp [holdsUnder]⟩
    | cons c rest =>
      have readable := readRuns_separated_isSome rest 1 [0] []
      rw [readClause_conditionPieces_cons]
      cases test : q.softDeleteCondition with
      | none =>
        simp only [Bool.not_false, Bool.true_or, Bool.and_true, Option.isNone_none, List.drop_one,
          List.tail_cons, Option.isSome_none, Bool.false_eq_true, false_implies, and_true]
        constructor
        · rintro ⟨own, read, -⟩
          exact readable.mp (by simp [read])
        · intro joined
          obtain ⟨own, read⟩ := Option.isSome_iff_exists.mp (readable.mpr joined)
          refine ⟨own, read, own, ?_, fun ρ => rfl⟩
          rw [clausePieces, readClause_conditionPieces_cons, read]
      | some t =>
        simp only [Bool.not_false, Bool.true_or, Bool.and_true, Option.isNone_some, Bool.false_or,
          List.length_cons, List.drop_one, List.tail_cons, Option.isSome_some, forall_const,
          Bool.false_eq_true, false_implies, true_and]
        constructor
        · rintro ⟨own, read, means⟩
          exact ⟨readable.mp (by simp [read]), (denotes_tested_iff read).mp means⟩
        · rintro ⟨joined, conjoined⟩
          obtain ⟨own, read⟩ := Option.isSome_iff_exists.mp (readable.mpr joined)
          exact ⟨own, read, (denotes_tested_iff read).mpr conjoined⟩

/-! ## Statements that must have a condition -/

namespace SqlM.Fails

variable {α β : Type}

theorem bind_left {m : SqlM α} {k : α → SqlM β} (fails : m.Fails) : (m >>= k).Fails := by
  intro pieces
  obtain ⟨f, ran⟩ := fails pieces
  refine ⟨f, ?_⟩
  simp only [ExceptT.run_bind, StateT.run_bind]
  rw [show m.run.run pieces = (.error f, (m.run.run pieces).2) from Prod.ext ran rfl]
  rfl

theorem bind_right {m : SqlM α} {k : α → SqlM β} (fails : ∀ a, (k a).Fails) : (m >>= k).Fails := by
  intro pieces
  simp only [ExceptT.run_bind, StateT.run_bind]
  rcases m.run.run pieces with ⟨_ | a, after⟩
  · exact ⟨_, rfl⟩
  · exact fails a after

theorem ite {c : Prop} [Decidable c] {m n : SqlM α} (yes : m.Fails) (no : n.Fails) :
    (if c then m else n).Fails := by
  split
  · exact yes
  · exact no

/-- A writer that fails puts no statement together. -/
theorem statement {m : SqlM Unit} (fails : m.Fails) (d : Dialect) (inline : Bool) :
    ∃ f, m.statement d inline = .error f := by
  obtain ⟨f, ran⟩ := fails #[]
  unfold SqlM.statement
  rcases written : m.run.run #[] with ⟨result, pieces⟩
  rw [written] at ran
  subst ran
  cases built : Statement.build d inline pieces with
  | error g => exact ⟨g, by simp [built]⟩
  | ok st => exact ⟨f, by simp [built]⟩

end SqlM.Fails

section Required

variable (p : Painter) (fr : Frame) {q : Query}

/-- With no condition of its own and no key condition, a clause that must have one fails
before writing anything. -/
theorem Query.writeWhere_missing (none : q.wheres = []) (unkeyed : q.wherePk = false)
    (pieces : Array Piece) :
    (q.writeWhere p fr true).run.run pieces = (.error q.missingCondition, pieces) := by
  rw [Query.writeWhere_eq_writeClause]
  simp [Query.writeClause, Query.whereConditions, none, unkeyed]
  rfl

theorem Query.writeWhere_missing_fails (none : q.wheres = []) (unkeyed : q.wherePk = false) :
    (q.writeWhere p fr true).Fails :=
  fun pieces => ⟨_, by rw [Query.writeWhere_missing p fr none unkeyed pieces]⟩

/-- Every path through an update writes the WHERE clause before the statement ends, so a fault
there is a fault of the whole update. -/
theorem Query.writeUpdate_fails (c : UpdateClauses) (fails : (q.writeWhere p fr true).Fails) :
    (q.writeUpdate p fr c).Fails := by
  unfold Query.writeUpdate
  extract_lets finishing
  have finished : ∀ r, (finishing r).Fails := fun _ => SqlM.Fails.bind_left fails
  exact SqlM.Fails.bind_right fun _ => SqlM.Fails.bind_right fun _ => SqlM.Fails.bind_right fun _ =>
    SqlM.Fails.ite (SqlM.Fails.bind_right fun _ => SqlM.Fails.bind_right finished) (finished ())

/-- A delete writes the WHERE clause last but for its RETURNING clause: a soft delete after
marking the rows with the clock's time in eight writings, a delete after naming its tables in
two. -/
theorem Query.writeDelete_fails (fails : (q.writeWhere p fr true).Fails) :
    (q.writeDelete p fr).Fails := by
  unfold Query.writeDelete
  extract_lets finishing started
  have finished : ∀ r, (finishing r).Fails := fun _ => SqlM.Fails.bind_left fails
  have starting : ∀ r, (started r).Fails := by
    intro r
    refine SqlM.Fails.bind_right fun _ => ?_
    split
    · iterate 7 refine SqlM.Fails.bind_right fun _ => ?_
      exact SqlM.Fails.bind_right finished
    · refine SqlM.Fails.bind_right fun _ => ?_
      exact SqlM.Fails.bind_right finished
  exact SqlM.Fails.ite (SqlM.Fails.bind_right starting) (starting ())

end Required

/-- An update or a delete with no condition and no key condition is never rendered: its
writing stops at the WHERE clause if not before. -/
theorem Query.render_unconditioned {q : Query} (modifies : q.kind = .update ∨ q.kind = .delete)
    (none : q.wheres = []) (unkeyed : q.wherePk = false) (cat : Catalog) (d : Dialect)
    (clock : Calendar.DateTime) (inline count : Bool) :
    ∃ f, q.render cat d clock inline count = .error f := by
  unfold Query.render
  cases faulted : q.fault with
  | some f => exact ⟨f, rfl⟩
  | none =>
    cases bound : q.bound with
    | false => exact ⟨_, rfl⟩
    | true =>
      have writing : (q.writeStatement q.painter (q.frame cat d clock) count).Fails := by
        have missing := Query.writeWhere_missing_fails q.painter (q.frame cat d clock) none unkeyed
        unfold Query.writeStatement
        simp only [faulted]
        rcases clauses : q.clauses with c | c | c | force | c | c <;>
          simp [Query.kind, clauses, Clauses.kind] at modifies
        · exact Query.writeUpdate_fails _ _ c missing
        · exact Query.writeDelete_fails _ _ missing
      simpa using writing.statement d inline

/-! ## The clause of every query -/

/-- The WHERE clause of every query is the clause of its pieces; it means the query's own
conditions, the key condition and the soft-delete test joined by `AND` exactly when it is
readable; and an update or a delete with no condition fails before anything is written of its
clause, and is never rendered. -/
theorem where_clause_reads_as_intended (p : Painter) (fr : Frame) (q : Query) :
    (∀ required, q.writeWhere p fr required = q.writeClause p fr required) ∧
    (∀ conds, q.whereConditions = .ok conds → (q.IntendedWhere conds ↔ q.WhereReadable)) ∧
    (q.wheres = [] → q.wherePk = false →
      (∀ pieces, (q.writeWhere p fr true).run.run pieces = (.error q.missingCondition, pieces)) ∧
      (q.kind = .update ∨ q.kind = .delete →
        ∀ cat d clock inline count, ∃ f, q.render cat d clock inline count = .error f)) :=
  ⟨Query.writeWhere_eq_writeClause p fr q, fun _ built => Query.intendedWhere_iff_readable built,
    fun none unkeyed => ⟨Query.writeWhere_missing p fr none unkeyed,
      fun modifies => Query.render_unconditioned modifies none unkeyed⟩⟩

/-- A select of a table with a soft-delete column, with a condition and then one added with
`OR`: its clause `(id = ?) OR (id = ?) AND deleted_at IS NULL` lets a deleted row with the
first key through. -/
theorem or_condition_escapes_soft_delete_test :
    let q : Query :=
      { schema := some { (default : TableSchema) with
          name := "notes", aliasName := "note",
          columns := [{ (default : Column) with name := "deleted_at", softDelete := true }] },
        wheres := [.template "id = ?" [.int 1] " AND ", .template "id = ?" [.int 2] " OR "],
        clauses := .select {} }
    ¬ q.IntendedWhere q.wheres := by
  intro q intended
  have built : q.whereConditions = .ok q.wheres := rfl
  obtain ⟨-, -, conjoined⟩ := (Query.intendedWhere_iff_readable built).mp intended
  -- the test follows the conditions, so the `OR` of the second one would have to be an `AND`
  have second := conjoined (by decide) (.template "id = ?" [.int 2] " OR ") List.mem_cons_self
  exact absurd second (by decide)

end SqlMapper
