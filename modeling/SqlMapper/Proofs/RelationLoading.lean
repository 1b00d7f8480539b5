import Mathlib
import SqlMapper.Proofs.JoinAliases
import SqlMapper.Proofs.TransactionChain
import SqlMapper.Session.Scan

/-!
# Which query loads each relation path

The joins of a select are split between the select itself and the follow-up
selects run after it. A join reached from the table through relations to one
row only is a `LEFT JOIN` of the select (`Join.toOne`). The loading after the
scan walks the same joins: through a relation to one row it goes on below,
onto the instances the rows hold there; at a relation to many rows it runs one
follow-up select, which carries the joins below that relation
(`Join.followUps`). So every join of the tree is loaded by exactly one query:
the select's own `LEFT JOIN`s and the subtrees of its follow-ups are a
rearrangement of the tree.

The loading itself is such a walk (`Join.walk`), with the loading of a relation
to many rows left as a parameter: it hands that loading exactly the follow-ups
(`Join.HandsOver`), so it runs alike with any loads that agree there
(`Join.walk_run_congr`). The follow-up select of a relation copies the joins
below it, each once by its path (`Join.copyBelow_eq`).

No follow-up runs when there is nothing to load onto: loading onto no
parents leaves the session as it was, and so does a relation to many rows
whose parents all have a `None` in their key (`groupByKey`).

The follow-up of a relation carries the joins below it, and then whatever the
calls that shape it and the `before_select` hook of its model add: those can
name relations that are not below it.
-/

set_option autoImplicit false

namespace SqlMapper

open SqlMapper.Schema SqlMapper.Text SqlMapper.SessionM

namespace Join

variable {cat : Catalog}

/-- The joins of relations to many rows reached from the table through
relations to one row only, in order: the joins the loading after a scan runs
a follow-up select for, each carrying the joins below it. -/
def followUps (cat : Catalog) : List Join → Except Fault (List Join)
  | [] => pure []
  | ⟨rel, target, aliasName, baseAlias, shape, columns, children⟩ :: rest => do
    let below ← followUps cat children
    let after ← followUps cat rest
    if ← rel.isToOne cat then pure (below ++ after)
    else pure (⟨rel, target, aliasName, baseAlias, shape, columns, children⟩ :: after)

@[simp] theorem followUps_nil : followUps cat [] = .ok [] := by
  rw [followUps]
  rfl

/-- What `followUps` does with the first join: it goes on below it when its
relation links to one row, and keeps it, without what hangs from it, otherwise. -/
theorem followUps_cons_eq {j : Join} {rest ups : List Join} (following : followUps cat (j :: rest) = .ok ups) :
    ∃ below after single, followUps cat j.children = .ok below ∧ followUps cat rest = .ok after ∧
      j.relation.isToOne cat = .ok single ∧ ups = if single then below ++ after else j :: after := by
  cases j
  rw [followUps] at following
  obtain ⟨below, belowOk, following⟩ := ok_of_bind_ok following
  obtain ⟨after, afterOk, following⟩ := ok_of_bind_ok following
  obtain ⟨single, singleOk, following⟩ := ok_of_bind_ok following
  refine ⟨below, after, single, belowOk, afterOk, singleOk, ?_⟩
  cases single <;> exact (Except.ok.inj following).symm

/-- The joins a follow-up select of each of `ups` loads: the join and those below it. -/
def subtrees (ups : List Join) : List Join := ups.flatMap fun k => k :: flatten k.children

@[simp] theorem subtrees_nil : subtrees [] = [] := rfl

theorem subtrees_append (xs ys : List Join) : subtrees (xs ++ ys) = subtrees xs ++ subtrees ys := by
  simp [subtrees]

theorem subtrees_cons (k : Join) (rest : List Join) :
    subtrees (k :: rest) = k :: flatten k.children ++ subtrees rest := by
  simp [subtrees]

/-- Every join of the tree is loaded exactly once: the `LEFT JOIN`s of the
select and the joins of its follow-ups are the joins of the tree, rearranged. -/
theorem flatten_perm_toOne_followUps :
    ∀ {js ones ups : List Join}, toOne cat js = .ok ones → followUps cat js = .ok ups →
      (flatten js).Perm (ones ++ subtrees ups) := by
  intro js
  induction js using Join.toOne.induct with
  | case1 =>
    intro ones ups written following
    rw [toOne_nil] at written
    rw [followUps_nil] at following
    cases written
    cases following
    simp
  | case2 rel target aliasName baseAlias shape columns children rest belowIh afterIh =>
    intro ones ups written following
    obtain ⟨below, after, single, belowOk, afterOk, singleOk, rfl⟩ := toOne_cons_eq written
    obtain ⟨belowUps, afterUps, single', belowUpsOk, afterUpsOk, singleOk', rfl⟩ := followUps_cons_eq following
    -- both walks read the same kind of the same relation
    obtain rfl : single = single' := Except.ok.inj (singleOk.symm.trans singleOk')
    have belowPerm := belowIh belowOk belowUpsOk
    have afterPerm := afterIh afterOk afterUpsOk
    rw [flatten_cons]
    cases single with
    | true =>
      -- the join is a `LEFT JOIN`; the follow-ups below it and after it stay in order
      simp only [↓reduceIte, subtrees_append, List.cons_append, List.append_assoc, List.perm_cons]
      have split : List.Perm (flatten children ++ flatten rest)
          ((below ++ subtrees belowUps) ++ (after ++ subtrees afterUps)) := belowPerm.append afterPerm
      refine split.trans ?_
      simp only [List.append_assoc, List.perm_append_left_iff]
      exact List.perm_append_comm_assoc _ _ _
    | false =>
      -- the join is loaded by a follow-up that carries everything below it
      simp only [Bool.false_eq_true, ↓reduceIte, subtrees_cons]
      have later : List.Perm (flatten rest) (after ++ subtrees afterUps) := afterPerm
      exact (later.append_left _).trans (List.perm_append_comm_assoc _ _ _)

/-! ### The joins a follow-up copies -/

/-- Every join of a tree with its path below `prefix_`, each before the joins below it. -/
def withPaths : List Join → String → List (Join × String)
  | [], _ => []
  | ⟨rel, target, aliasName, baseAlias, shape, columns, children⟩ :: rest, prefix_ =>
    (⟨rel, target, aliasName, baseAlias, shape, columns, children⟩, prefix_ ++ rel.name) ::
      withPaths children (prefix_ ++ rel.name ++ ".") ++ withPaths rest prefix_

@[simp] theorem withPaths_nil (prefix_ : String) : withPaths [] prefix_ = [] := by
  rw [withPaths]

theorem withPaths_cons (j : Join) (rest : List Join) (prefix_ : String) :
    withPaths (j :: rest) prefix_ =
      (j, prefix_ ++ j.relation.name) :: withPaths j.children (prefix_ ++ j.relation.name ++ ".") ++
        withPaths rest prefix_ := by
  cases j
  rw [withPaths]

/-- Forgetting the paths leaves the joins of the tree. -/
theorem map_fst_withPaths : ∀ (js : List Join) (prefix_ : String), (withPaths js prefix_).map (·.1) = flatten js
  | [], _ => by simp
  | ⟨rel, target, aliasName, baseAlias, shape, columns, children⟩ :: rest, prefix_ => by
    rw [withPaths_cons, flatten_cons, List.map_append, List.map_cons, map_fst_withPaths children,
      map_fst_withPaths rest]

/-- The calls that restrict a copied join to its columns, under its path. -/
def restriction (j : Join) (path : String) : List Step :=
  match j.columns with
  | some cols => (if cols.isEmpty then ["_"] else cols).map fun n => Step.relation [.str (path ++ "." ++ n)] none
  | none => []

/-- Copying joins names every join of the tree once, in the tree's order, by its path and
with its shaping calls, followed by the calls that restrict it to its columns. -/
theorem copyBelow_eq : ∀ (js : List Join) (prefix_ : String),
    copyBelow js prefix_ =
      (withPaths js prefix_).flatMap fun jp => .relation [.str jp.2] jp.1.shape :: jp.1.restriction jp.2
  | [], _ => by simp [copyBelow]
  | ⟨rel, target, aliasName, baseAlias, shape, columns, children⟩ :: rest, prefix_ => by
    simp only [copyBelow, copyAs, withPaths_cons, List.flatMap_cons, List.flatMap_append, copyBelow_eq children,
      copyBelow_eq rest]
    simp only [restriction, List.cons_append, List.append_assoc, List.cons.injEq, true_and]
    cases columns <;> rfl

/-! ### The joins a follow-up loads -/

/-- The relations to many rows a walk of `joins` hands to its load, judged by catalog `c`:
those among `joins`, and those a walk of the joins below a relation to one row hands over. -/
inductive HandsOver (c : Catalog) : List Join → Join → Prop
  | here {joins : List Join} {j : Join} {kind : RelationKind} (mem : j ∈ joins) (kinded : j.relation.kind c = .ok kind)
      (many : kind.isToOne = false) : HandsOver c joins j
  | through {joins : List Join} {j k : Join} {kind : RelationKind} (mem : j ∈ joins)
      (kinded : j.relation.kind c = .ok kind) (single : kind.isToOne = true) (handed : HandsOver c j.children k) :
      HandsOver c joins k

theorem handsOver_nil {c : Catalog} {k : Join} : ¬HandsOver c [] k := by
  rintro (⟨mem, -, -⟩ | ⟨mem, -, -, -⟩) <;> cases mem

/-- What a walk of `j :: rest` hands over: `j` itself when it links to many rows, what
`j.children` hands over when it links to one, and what `rest` hands over. -/
theorem handsOver_cons {c : Catalog} {j k : Join} {rest : List Join} :
    HandsOver c (j :: rest) k ↔
      (∃ kind, j.relation.kind c = .ok kind ∧ kind.isToOne = false ∧ k = j) ∨
        (∃ kind, j.relation.kind c = .ok kind ∧ kind.isToOne = true ∧ HandsOver c j.children k) ∨
        HandsOver c rest k := by
  constructor
  · rintro (⟨mem, kinded, many⟩ | ⟨mem, kinded, single, handed⟩)
    · rcases List.mem_cons.1 mem with rfl | later
      · exact .inl ⟨_, kinded, many, rfl⟩
      · exact .inr (.inr (.here later kinded many))
    · rcases List.mem_cons.1 mem with rfl | later
      · exact .inr (.inl ⟨_, kinded, single, handed⟩)
      · exact .inr (.inr (.through later kinded single handed))
  · rintro (⟨kind, kinded, many, rfl⟩ | ⟨kind, kinded, single, handed⟩ | (⟨mem, kinded, many⟩ | ⟨mem, kinded, single, handed⟩))
    · exact .here List.mem_cons_self kinded many
    · exact .through List.mem_cons_self kinded single handed
    · exact .here (List.mem_cons_of_mem _ mem) kinded many
    · exact .through (List.mem_cons_of_mem _ mem) kinded single handed

/-- A relation links to one row exactly when its kind does. -/
theorem isToOne_eq_ok {c : Catalog} {r : Relation} {single : Bool} :
    r.isToOne c = .ok single ↔ ∃ kind, r.kind c = .ok kind ∧ kind.isToOne = single := by
  unfold Relation.isToOne
  cases r.kind c <;> simp [bind, Except.bind, pure, Except.pure]

/-- The follow-ups of a tree are exactly the joins a walk of it hands to its load. -/
theorem mem_followUps_iff {c : Catalog} :
    ∀ {js ups : List Join}, followUps c js = .ok ups → ∀ k, k ∈ ups ↔ HandsOver c js k := by
  intro js
  induction js using Join.followUps.induct with
  | case1 =>
    intro ups following k
    rw [followUps_nil] at following
    cases following
    simp [handsOver_nil]
  | case2 rel target aliasName baseAlias shape columns children rest belowIh afterIh =>
    intro ups following k
    obtain ⟨below, after, single, belowOk, afterOk, singleOk, rfl⟩ := followUps_cons_eq following
    obtain ⟨kind, kinded, rfl⟩ := isToOne_eq_ok.1 singleOk
    rw [handsOver_cons]
    simp only [kinded, Except.ok.injEq, exists_eq_left']
    cases toOne : kind.isToOne
    · simp [afterIh afterOk]
    · simp [belowIh belowOk, afterIh afterOk]

end Join

/-- A key among parents' keys: every place of a key list is a key of it. -/
theorem forall_mem_zipIdx_iff {α : Type} {P : α → Prop} (l : List α) :
    (∀ p ∈ l.zipIdx, P p.1) ↔ ∀ x ∈ l, P x := by
  constructor
  · intro holds x member
    obtain ⟨i, at_⟩ := List.mem_iff_getElem?.1 member
    exact holds (x, i) (List.mem_zipIdx_iff_getElem?.2 at_)
  · intro holds p member
    exact holds _ (List.fst_mem_of_mem_zipIdx member)

/-- A fold that keeps its list on some items and makes it non-empty on the
others ends empty exactly when it starts empty and every item is kept. -/
theorem foldl_eq_nil_iff {α β : Type} (P : α → Prop) {F : List β → α → List β}
    (keep : ∀ acc a, P a → F acc a = acc) (grow : ∀ acc a, ¬P a → F acc a ≠ []) :
    ∀ (l : List α) (acc : List β), l.foldl F acc = [] ↔ acc = [] ∧ ∀ a ∈ l, P a
  | [], acc => by simp
  | a :: rest, acc => by
    rw [List.foldl_cons, foldl_eq_nil_iff P keep grow rest]
    by_cases kept : P a
    · simp [keep acc a kept, kept]
    · simp [grow acc a kept, kept]

/-- Keys are left without a group exactly when every one of them holds a `None`. -/
theorem groupByKey_eq_nil_iff (keys : List (List Value)) :
    groupByKey keys = [] ↔ ∀ k ∈ keys, Value.none ∈ k := by
  rw [← forall_mem_zipIdx_iff, groupByKey, foldl_eq_nil_iff fun p : List Value × Nat => Value.none ∈ p.1]
  · simp
  · -- a key with a `None` is left out
    rintro groups ⟨k, i⟩ (held : Value.none ∈ k)
    dsimp only
    rw [if_pos (List.any_eq_true.2 ⟨_, held, rfl⟩)]
  · -- a key without one joins a group, which there then is
    rintro groups ⟨k, i⟩ (free : Value.none ∉ k)
    dsimp only
    split
    · rename_i held
      obtain ⟨v, member, isNone⟩ := List.any_eq_true.1 held
      cases v <;> first | exact absurd member free | cases isNone
    · split
      · rename_i j found
        intro empty
        rw [List.modify_eq_nil_iff] at empty
        subst empty
        cases found
      · simp

namespace SessionM

variable {P : Session → Prop}

/-- Giving a value runs nothing. -/
theorem run_pure {α : Type} (a : α) (s : Session) : (pure a : SessionM α).run.run s = (.ok a, s) := rfl

/-- Reading the catalog gives the session's catalog and changes nothing. -/
theorem run_cat (s : Session) : (Session.cat).run.run s = (.ok s.catalog, s) := rfl

/-- Reading an outcome keeps every property of the session. -/
theorem Keeps.lift {α : Type} (x : Except Fault α) : Keeps P (Session.lift x) := by
  intro s held
  rw [Session.run_lift]
  exact held

/-- Reading the catalog keeps every property of the session. -/
theorem Keeps.cat : Keeps P Session.cat := fun _ held => held

/-- A loop keeps a property of the session when each of its steps does. -/
theorem Keeps.forIn {α β : Type} {body : α → β → SessionM (ForInStep β)} (steps : ∀ x b, Keeps P (body x b)) :
    ∀ (xs : List α) (init : β), Keeps P (ForIn.forIn xs init body)
  | [], init => Keeps.pure init
  | x :: xs, init => by
    rw [List.forIn_cons]
    refine Keeps.bind (steps x init) fun step => ?_
    cases step with
    | done b => exact Keeps.pure b
    | yield b => exact Keeps.forIn steps xs b

/-- Two loops over one list whose steps run alike from every session with property `P`,
the steps of the second keeping it, run alike from such a session. -/
theorem forIn_run_congr {α β : Type} {f g : α → β → SessionM (ForInStep β)} (keeps : ∀ x b, Keeps P (g x b)) :
    ∀ (xs : List α), (∀ x ∈ xs, ∀ b s, P s → (f x b).run.run s = (g x b).run.run s) →
      ∀ b s, P s → (ForIn.forIn xs b f).run.run s = (ForIn.forIn xs b g).run.run s
  | [], _, _, _, _ => rfl
  | x :: xs, same, b, s, held => by
    rw [List.forIn_cons, List.forIn_cons, run_bind, run_bind, same x List.mem_cons_self b s held]
    rcases ran : (g x b).run.run s with ⟨_ | step, s'⟩
    · rfl
    · have held' : P s' := by simpa [ran] using keeps x b s held
      cases step with
      | done b' => rfl
      | yield b' =>
        exact forIn_run_congr keeps xs (fun y mem => same y (List.mem_cons_of_mem x mem)) b' s' held'

end SessionM

/-! ### The walk of the loading -/

namespace Join

/-- One step of a walk, at join `j` with the parents `ps` reached so far and the catalog read
as `c`: at a relation to one row it walks the joins below with `below`, onto the instances the
parents hold there, and sets what it loaded back onto them; a relation to many rows it hands to
`load`. -/
def walkStep (load : Nat → RelationKind → Join → List Value → SessionM (List Value))
    (below : List Join → List Value → SessionM (List Value)) (fuel : Nat) (c : Catalog) (j : Join)
    (ps : List Value) : SessionM (ForInStep (List Value)) := do
  let kind ← Session.lift (j.relation.kind c)
  if kind.isToOne then
    let related := ps.zipIdx.filterMap fun (p, i) => match Column.attributeOf p j.relation.name with
      | .none => none
      | r => some (i, r)
    let loaded ← below j.children (related.map (·.2))
    pure (.yield ((related.zip loaded).foldl (fun acc ((i, _), r) => acc.modify i (·.setAttr j.relation.name r)) ps))
  else
    let ps ← load fuel kind j ps
    pure (.yield ps)

/-- A walk of `joins` onto `parents`: below a relation to one row it goes on, onto the
instances the parents hold there; every relation to many rows it hands, with the parents it
reached, to `load`. -/
def walk (load : Nat → RelationKind → Join → List Value → SessionM (List Value)) :
    Nat → List Join → List Value → SessionM (List Value)
  | 0, _, _ => throw .recursion
  | fuel + 1, joins, parents => do
    if parents.isEmpty then return parents
    let c ← Session.cat
    let ps ← forIn joins parents (walkStep load (walk load fuel) fuel c)
    pure ps

variable {load load' : Nat → RelationKind → Join → List Value → SessionM (List Value)}

/-- A step keeps what its loads and its walks below keep. -/
theorem walkStep_keeps {P : Session → Prop} {below : List Join → List Value → SessionM (List Value)}
    (keeps : ∀ n kind k ps, Keeps P (load n kind k ps)) (walks : ∀ js ps, Keeps P (below js ps))
    (fuel : Nat) (c : Catalog) (j : Join) (ps : List Value) : Keeps P (walkStep load below fuel c j ps) := by
  rw [walkStep]
  refine Keeps.bind (Keeps.lift _) fun kind => ?_
  split
  · exact Keeps.bind (walks _ _) fun _ => Keeps.pure _
  · exact Keeps.bind (keeps _ _ _ _) fun _ => Keeps.pure _

/-- A walk keeps what its loads keep. -/
theorem walk_keeps {P : Session → Prop} (keeps : ∀ n kind k ps, Keeps P (load n kind k ps)) :
    ∀ fuel js ps, Keeps P (walk load fuel js ps)
  | 0, _, _ => by
    rw [walk]
    exact Keeps.throw _
  | fuel + 1, js, ps => by
    rw [walk]
    split
    · exact Keeps.pure _
    · exact Keeps.bind Keeps.cat fun c => Keeps.forIn (walkStep_keeps keeps (walk_keeps keeps fuel) fuel c) _ _

/-- A step at `j` runs alike with two loads and two walks below when the loads agree at `j`
if it links to many rows, and the walks below agree at `j.children` if it links to one. -/
theorem walkStep_run_congr {c : Catalog} {below below' : List Join → List Value → SessionM (List Value)}
    {fuel : Nat} {j : Join}
    (loads : ∀ kind, j.relation.kind c = .ok kind → kind.isToOne = false → ∀ ps, load fuel kind j ps = load' fuel kind j ps)
    (walksBelow : ∀ kind, j.relation.kind c = .ok kind → kind.isToOne = true →
      ∀ ps s, s.catalog = c → (below j.children ps).run.run s = (below' j.children ps).run.run s)
    (ps : List Value) (s : Session) (held : s.catalog = c) :
    (walkStep load below fuel c j ps).run.run s = (walkStep load' below' fuel c j ps).run.run s := by
  rw [walkStep, walkStep, run_bind, run_bind, Session.run_lift]
  cases kinded : j.relation.kind c with
  | error f => rfl
  | ok kind =>
    dsimp only
    split
    · rename_i single
      rw [run_bind, run_bind, walksBelow kind kinded single _ s held]
    · rename_i many
      rw [loads kind kinded (by simpa using many)]

/-- A walk consults its load only at the joins it hands over: from a session of catalog `c`,
two walks whose loads agree there run alike, the second load keeping the catalog. -/
theorem walk_run_congr {c : Catalog} (keeps : ∀ n kind k ps, Keeps (·.catalog = c) (load' n kind k ps)) :
    ∀ (fuel : Nat) (js : List Join), (∀ k, HandsOver c js k → ∀ n kind ps, load n kind k ps = load' n kind k ps) →
      ∀ ps s, s.catalog = c → (walk load fuel js ps).run.run s = (walk load' fuel js ps).run.run s
  | 0, _, _, _, _, _ => by rw [walk, walk]
  | fuel + 1, js, agree, ps, s, held => by
    rw [walk, walk]
    split
    · rfl
    · rw [run_bind, run_bind, run_cat, held]
      dsimp only
      rw [forIn_run_congr (walkStep_keeps keeps (walk_keeps keeps fuel) fuel c) js ?_ ps s held]
      intro j mem
      exact walkStep_run_congr (fun kind kinded many => agree j (.here mem kinded many) fuel kind)
        fun kind kinded single => walk_run_congr keeps fuel j.children fun k handed =>
          agree k (.through mem kinded single handed)

end Join

namespace Session

/-- Loading onto no parents runs no query and leaves the session as it was. -/
theorem loadRelations_no_parents (fuel : Nat) (e : Executor) (joins : List Join) (s : Session) :
    (loadRelations (fuel + 1) e joins []).run.run s = (.ok [], s) := by
  rw [loadRelations]
  rfl

/-- How the loading after a scan loads a relation to many rows: by the loader of its kind. -/
def followUpLoad (e : Executor) (fuel : Nat) (kind : RelationKind) (j : Join) (parents : List Value) :
    SessionM (List Value) :=
  if kind == .manyToMany then loadManyToMany fuel e j parents else loadHasMany fuel e j parents

/-- The loading after a scan is a walk of the join tree that loads each relation to many
rows it reaches by the loader of its kind. -/
theorem loadRelations_eq_walk (e : Executor) : ∀ fuel, loadRelations fuel e = Join.walk (followUpLoad e) fuel
  | 0 => by
    funext joins parents
    rw [loadRelations, Join.walk]
  | fuel + 1 => by
    funext joins parents
    rw [loadRelations, Join.walk, loadRelations_eq_walk e fuel]
    refine if_congr Iff.rfl rfl (bind_congr fun c => ?_)
    refine (bind_pure _).trans (congrArg (forIn joins parents) (funext fun j => funext fun ps => ?_))
    rw [Join.walkStep]
    refine bind_congr fun kind => ?_
    split
    · rfl
    · simp only [followUpLoad]
      split <;> rfl

/-- A relation to many rows whose parents all have a `None` in their key runs
no follow-up: each parent's list is emptied and the session is left as it was. -/
theorem loadHasMany_unkeyed {fuel : Nat} {e : Executor} {j : Join} {parents : List Value} {s : Session}
    {pairs : List (Column × Column)} (paired : j.relation.joinPairs s.catalog = .ok pairs)
    (unkeyed : ∀ p ∈ parents,
      Value.none ∈ pairs.map fun (b, _) => b.getValue (p.setAttr j.relation.name (.list []))) :
    (loadHasMany (fuel + 1) e j parents).run.run s =
      (.ok (parents.map (·.setAttr j.relation.name (.list []))), s) := by
  have ungrouped : groupByKey ((parents.map (·.setAttr j.relation.name (.list []))).map fun p =>
      pairs.map fun (b, _) => b.getValue p) = [] := by
    rw [groupByKey_eq_nil_iff]
    simpa using unkeyed
  rw [loadHasMany]
  simp only [run_bind, cat, run_get, run_pure, run_lift] at ungrouped ⊢
  simp only [paired, ungrouped, List.isEmpty_nil, ↓reduceIte, run_pure]

/-- A many-to-many relation whose parents all have a `None` in their key runs
no follow-up either. -/
theorem loadManyToMany_unkeyed {fuel : Nat} {e : Executor} {j : Join} {parents : List Value} {s : Session}
    {pairs : List (Column × Column) × List (Column × Column)} {junction : TableSchema}
    (paired : j.relation.m2mPairs s.catalog = .ok pairs) (through : j.relation.junctionSchema s.catalog = .ok junction)
    (unkeyed : ∀ p ∈ parents,
      Value.none ∈ pairs.1.map fun (pk, _) => pk.getValue (p.setAttr j.relation.name (.list []))) :
    (loadManyToMany (fuel + 1) e j parents).run.run s =
      (.ok (parents.map (·.setAttr j.relation.name (.list []))), s) := by
  have ungrouped : groupByKey ((parents.map (·.setAttr j.relation.name (.list []))).map fun p =>
      pairs.1.map fun (pk, _) => pk.getValue p) = [] := by
    rw [groupByKey_eq_nil_iff]
    simpa using unkeyed
  rw [loadManyToMany]
  simp only [run_bind, cat, run_get, run_pure, run_lift] at ungrouped ⊢
  simp only [paired, through, ungrouped, List.isEmpty_nil, ↓reduceIte, run_pure]

end Session

/-- Every join of the tree is loaded by exactly one query. The select's `LEFT JOIN`s and
the subtrees of its follow-ups are the joins of the tree, rearranged. The loading after the
scan is the walk of the tree that loads each relation to many rows by the loader of its kind,
and it hands to those loaders exactly the follow-ups: a walk whose loads agree with them at the
follow-ups runs as it does. The follow-up select of such a relation copies each join below it
once, by its path. Loading onto no parents runs no query, and the follow-up of a relation
whose parents all have a `None` in their key is never run. -/
theorem each_join_loaded_by_one_query {cat : Catalog} {js ones ups : List Join}
    (written : Join.toOne cat js = .ok ones) (following : Join.followUps cat js = .ok ups) :
    (Join.flatten js).Perm (ones ++ Join.subtrees ups) ∧
      (∀ k, k ∈ ups ↔ Join.HandsOver cat js k) ∧
      (∀ e fuel, Session.loadRelations fuel e = Join.walk (Session.followUpLoad e) fuel) ∧
      (∀ e (load : Nat → RelationKind → Join → List Value → SessionM (List Value)),
        (∀ n kind k ps, SessionM.Keeps (·.catalog = cat) (load n kind k ps)) →
        (∀ k ∈ ups, ∀ n kind ps, load n kind k ps = Session.followUpLoad e n kind k ps) →
        ∀ fuel ps s, s.catalog = cat →
          (Session.loadRelations fuel e js ps).run.run s = (Join.walk load fuel js ps).run.run s) ∧
      (∀ k ∈ ups, Join.copyBelow k.children "" =
          (Join.withPaths k.children "").flatMap (fun jp => .relation [.str jp.2] jp.1.shape :: jp.1.restriction jp.2) ∧
        (Join.withPaths k.children "").map (·.1) = Join.flatten k.children) ∧
      (∀ fuel e s, (Session.loadRelations (fuel + 1) e js []).run.run s = (.ok [], s)) ∧
      (∀ k ∈ ups, ∀ fuel e parents s pairs, k.relation.joinPairs s.catalog = .ok pairs →
        (∀ p ∈ parents, Value.none ∈ pairs.map fun (b, _) => b.getValue (p.setAttr k.relation.name (.list []))) →
        (Session.loadHasMany (fuel + 1) e k parents).run.run s =
          (.ok (parents.map (·.setAttr k.relation.name (.list []))), s)) ∧
      ∀ k ∈ ups, ∀ fuel e parents s pairs junction, k.relation.m2mPairs s.catalog = .ok pairs →
        k.relation.junctionSchema s.catalog = .ok junction →
        (∀ p ∈ parents, Value.none ∈ pairs.1.map fun (pk, _) => pk.getValue (p.setAttr k.relation.name (.list []))) →
        (Session.loadManyToMany (fuel + 1) e k parents).run.run s =
          (.ok (parents.map (·.setAttr k.relation.name (.list []))), s) := by
  refine ⟨Join.flatten_perm_toOne_followUps written following, Join.mem_followUps_iff following,
    Session.loadRelations_eq_walk, ?_, fun k _ => ⟨Join.copyBelow_eq k.children "", Join.map_fst_withPaths _ _⟩,
    fun fuel e s => Session.loadRelations_no_parents fuel e js s,
    fun _ _ _ _ _ _ _ paired unkeyed => Session.loadHasMany_unkeyed paired unkeyed,
    fun _ _ _ _ _ _ _ _ paired through unkeyed => Session.loadManyToMany_unkeyed paired through unkeyed⟩
  intro e load keeps agree fuel ps s held
  rw [Session.loadRelations_eq_walk]
  exact Join.walk_run_congr keeps fuel js (fun k handed n kind ps =>
    (agree k ((Join.mem_followUps_iff following k).2 handed) n kind ps).symm) ps s held

/-- A relation `books` of an `Author` to many `Book`s, through their `author_id`. -/
def booksRelation : Relation :=
  { name := "books", owner := authorRef, target := .cls ⟨1, "Book", .table⟩, toMany := true, nullable := false,
    declaredKind := none, join := [("id", "author_id")], junction := none, order := none, filter := none }

/-- The join of the books of a book's author. -/
def authorBooksJoin : Join :=
  { relation := booksRelation, target := bookTable, aliasName := "author__books", baseAlias := "author" }

/-- The join of a book's author, with the author's books below it. -/
def authorWithBooksJoin : Join := { authorJoin with children := [authorBooksJoin] }

theorem author_books_loaded_by_follow_up :
    Join.toOne authorCatalog [authorWithBooksJoin] = .ok [authorWithBooksJoin] ∧
      Join.followUps authorCatalog [authorWithBooksJoin] = .ok [authorBooksJoin] ∧
      (Join.flatten [authorWithBooksJoin]).Perm ([authorWithBooksJoin] ++ Join.subtrees [authorBooksJoin]) ∧
      (∀ k, k ∈ [authorBooksJoin] ↔ Join.HandsOver authorCatalog [authorWithBooksJoin] k) := by
  have single : authorRelation.isToOne authorCatalog = .ok true := rfl
  have many : booksRelation.isToOne authorCatalog = .ok false := rfl
  have written : Join.toOne authorCatalog [authorWithBooksJoin] = .ok [authorWithBooksJoin] := by
    simp only [authorWithBooksJoin, authorJoin, authorBooksJoin, Join.toOne, Join.toOne_nil, single, many]
    rfl
  have following : Join.followUps authorCatalog [authorWithBooksJoin] = .ok [authorBooksJoin] := by
    simp only [authorWithBooksJoin, authorJoin, authorBooksJoin, Join.followUps, Join.followUps_nil, single, many]
    rfl
  obtain ⟨split, handed, -⟩ := each_join_loaded_by_one_query written following
  exact ⟨written, following, split, handed⟩

/-- The `before_select` hook of `Book` names the relation `author`. Run on the
follow-up select that loads a relation `books` with nothing below it, it
leaves that select with a join: a follow-up carries more than the joins below
the relation it loads. -/
theorem hook_joins_outside_followed_subtree :
    (runHookActions authorCatalog false [.steps [.relation [.str "author"] none]]
      { Query.new .select with schema := some bookTable } .none).map Query.relationJoins = .ok [authorJoin] := by
  have parts : Query.pathParts "author" = ["author"] := by decide
  have found : bookTable.relation? "author" = some authorRelation := rfl
  simp [runHookActions, Query.run, runStep, Query.invoke, Query.relate, Query.new, Query.kind, Clauses.empty,
    stringArg, parts, found, authorRelation_joinSchema, resolvePath, placeJoin]
  rfl

end SqlMapper
