import Mathlib
import SqlMapper.Proofs.JoinAliases
import SqlMapper.Proofs.RowMapping

/-!
# Requesting relation paths

A select names a relation path (`author`, `author.publisher`, `author.name`,
`author._`) to load related rows with its own. Each name of the path but the last
must find a relation of the table reached so far, its case ignored; the last name
finds a relation too, or is taken as a column of the last table reached, `_` for
none, without looking the column up.

A join tree is viewed through its nodes, each found by the names of the
relations from the model's table down to it (`Join.nodeAt`). Main statement: from
any tree that relation requests built, a request for a path that resolves adds
exactly the nodes of the path that were missing, keeps every other node as it was,
and marks the node the path ends at: a path ending at a relation attaches its
shaping calls there, a path ending at a column restricts the node's columns to
those named so far and that column (`_` adding none). What a path ending at a
column does with shaping calls given with it is left unstated. A request for any
other path records a configuration fault and leaves the tree alone
(`relation_requests_extend_join_tree`). A last name that is neither a relation
nor a column is taken as a column all the same.
-/

set_option autoImplicit false

namespace SqlMapper

open SqlMapper.Schema SqlMapper.Text

namespace Join

/-- The join itself at the empty path, else the join below it found by the relation names. -/
def nodeFrom (j : Join) : List String → Option Join
  | [] => some j
  | n :: path => (j.children.find? (·.relation.name == n)).bind (·.nodeFrom path)

/-- The join of a tree found by the names of the relations leading to it. -/
def nodeAt (js : List Join) : List String → Option Join
  | [] => none
  | n :: path => (js.find? (·.relation.name == n)).bind (·.nodeFrom path)

/-- A join without the joins below it. -/
def strip (j : Join) : Join := { j with children := [] }

@[simp] theorem nodeFrom_nil (j : Join) : j.nodeFrom [] = some j := by
  rw [nodeFrom]

theorem nodeFrom_cons (j : Join) (n : String) (path : List String) :
    j.nodeFrom (n :: path) = nodeAt j.children (n :: path) := by
  rw [nodeFrom, nodeAt]

@[simp] theorem nodeAt_nil (js : List Join) : nodeAt js [] = none := by
  rw [nodeAt]

/-- A join put in the place of the one of its relation is found by that relation's name,
and every other name finds what it found before. -/
theorem find?_placeJoin (js : List Join) (j : Join) (n : String) :
    (placeJoin js j).find? (·.relation.name == n) =
      if n = j.relation.name then some j else js.find? (·.relation.name == n) := by
  unfold placeJoin
  split
  · next present =>
    -- replacing by `j` changes no answer to a test of the name `n`
    rw [List.find?_map]
    have same : ((·.relation.name == n) ∘ fun k : Join => if k.relation.name == j.relation.name then j else k) =
        (·.relation.name == n) := by
      funext k
      by_cases replaced : k.relation.name = j.relation.name <;> simp [replaced]
    rw [same]
    split
    · next named =>
      obtain ⟨k, member, kNamed⟩ := List.any_eq_true.1 present
      cases found : js.find? (·.relation.name == n) with
      | none => simp_all [List.find?_eq_none]
      | some k' =>
        have : k'.relation.name = n := by simpa using List.find?_some found
        simp [this, named]
    · next other =>
      cases found : js.find? (·.relation.name == n) with
      | none => rfl
      | some k =>
        have : k.relation.name = n := by simpa using List.find?_some found
        simp [this, other]
  · next absent =>
    rw [List.find?_append]
    split
    · next named =>
      have none : js.find? (·.relation.name == n) = none := by
        rw [List.find?_eq_none]
        intro k member same
        exact absent (List.any_eq_true.2 ⟨k, member, by simp_all⟩)
      subst named
      simp [none]
    · next other => simp [Ne.symm other]

/-- The nodes of a tree after a join is put in place: below that join's relation name they
are the join's own, elsewhere they are as before. -/
theorem nodeAt_placeJoin (js : List Join) (j : Join) (n : String) (path : List String) :
    nodeAt (placeJoin js j) (n :: path) = if n = j.relation.name then j.nodeFrom path else nodeAt js (n :: path) := by
  rw [nodeAt, find?_placeJoin]
  split <;> simp [nodeAt]

/-- Below the join a relation lands in, the nodes are those the tree had below that relation. -/
theorem landing_nodeFrom_cons (s : TableSchema) (parent : Option String) (js : List Join) (found : Relation)
    (target : TableSchema) (n : String) (path : List String) :
    (landing s parent js found target).nodeFrom (n :: path) = nodeAt js (found.name :: n :: path) := by
  unfold landing
  rw [nodeAt]
  cases js.find? (·.relation.name == found.name) with
  | none => simp [nodeFrom]
  | some k => rfl

/-- The join a relation lands in is the node of its name, when there is one. -/
theorem landing_of_nodeAt {s : TableSchema} {parent : Option String} {js : List Join} {found : Relation}
    {target : TableSchema} {k : Join} (existing : nodeAt js [found.name] = some k) :
    landing s parent js found target = k := by
  unfold landing
  rw [nodeAt] at existing
  cases found' : js.find? (·.relation.name == found.name) with
  | none => simp [found'] at existing
  | some k' =>
    rw [found'] at existing
    simpa using existing

/-- A relation with no node yet lands in a new join with nothing below or attached. -/
theorem landing_of_nodeAt_none {s : TableSchema} {parent : Option String} {js : List Join} {found : Relation}
    {target : TableSchema} (missing : nodeAt js [found.name] = none) :
    (landing s parent js found target).children = [] ∧ (landing s parent js found target).shape = none ∧
      (landing s parent js found target).columns = none := by
  unfold landing
  rw [nodeAt] at missing
  cases found' : js.find? (·.relation.name == found.name) with
  | none => simp
  | some k' => simp [found'] at missing

/-- The join a relation lands in carries what the node of the relation's name carried. -/
theorem landing_attached (s : TableSchema) (parent : Option String) (js : List Join) (found : Relation)
    (target : TableSchema) :
    (landing s parent js found target).shape = (nodeAt js [found.name]).bind (·.shape) ∧
      (landing s parent js found target).columns = (nodeAt js [found.name]).bind (·.columns) := by
  cases existing : nodeAt js [found.name] with
  | none =>
    exact (landing_of_nodeAt_none existing).2
  | some k =>
    rw [landing_of_nodeAt existing]
    exact ⟨rfl, rfl⟩

end Join

open Join

/-! ## What a request adds -/

/-- A relation path resolves below table `s`: each name but the last finds a relation of the
table reached so far whose table can be built; the last name finds one too (`here`), or
follows one and finds no relation of its table (`restrict`), and is then the column name the
path ends with. `found` lists the relations found. -/
inductive PathResolves (cat : Catalog) : TableSchema → List String → List Relation → Option String → Prop
  | here {s : TableSchema} {p : String} {r : Relation} {t : TableSchema} :
      s.relation? p = some r → r.joinSchema cat = .ok t → PathResolves cat s [p] [r] none
  | restrict {s : TableSchema} {p c : String} {r : Relation} {t : TableSchema} :
      s.relation? p = some r → r.joinSchema cat = .ok t → t.relation? c = none →
      PathResolves cat s [p, c] [r] (some c)
  | through {s : TableSchema} {p q : String} {rest : List String} {r : Relation} {t : TableSchema}
      {found : List Relation} {column : Option String} :
      s.relation? p = some r → r.joinSchema cat = .ok t → PathResolves cat t (q :: rest) found column →
      PathResolves cat s (p :: q :: rest) (r :: found) column

namespace PathResolves

variable {cat : Catalog} {s : TableSchema} {found : List Relation} {column : Option String}

/-- The first name of a path that resolves finds a relation. -/
theorem head_found {p : String} {rest : List String} (resolves : PathResolves cat s (p :: rest) found column) :
    (s.relation? p).isSome := by
  cases resolves with
  | here lookup _ => simp [lookup]
  | restrict lookup _ _ => simp [lookup]
  | through lookup _ _ => simp [lookup]

/-- A path that resolves passes through a relation at least. -/
theorem found_ne_nil {names : List String} (resolves : PathResolves cat s names found column) : found ≠ [] := by
  cases resolves <;> simp

end PathResolves

/-- What a request marks on the node its path ends at, given the node there before: a path
ending at a relation attaches its shaping calls, when it has any, and keeps the columns; a
path ending at a column adds the column to the node's columns, `_` adding none. -/
def Marked (shape : Option (List Step)) : Option String → Option Join → Join → Prop
  | none, old, j => j.shape = shape.or (old.bind (·.shape)) ∧ j.columns = old.bind (·.columns)
  | some c, old, j => j.columns = some ((old.bind (·.columns)).getD [] ++ if c = "_" then [] else [c])

/-- A tree `js'` is `js` with the nodes of the path `names` added: its nodes are those of `js`
and those the path passes through, every other node of `js` is kept, apart from the joins
below it, a node added off the end of the path has nothing attached, and the node at the end
of the path is marked as `marked` says of the node there before. -/
structure PathAdded (js js' : List Join) (names : List String) (marked : Option Join → Join → Prop) : Prop where
  nodes : ∀ path, (nodeAt js' path).isSome ↔ (nodeAt js path).isSome ∨ (path ≠ [] ∧ path <+: names)
  kept : ∀ path, path ≠ names → ∀ j, nodeAt js path = some j → ∃ j', nodeAt js' path = some j' ∧ j'.strip = j.strip
  bare : ∀ path, path ≠ names → nodeAt js path = none → ∀ j', nodeAt js' path = some j' →
    j'.shape = none ∧ j'.columns = none
  marks : ∃ j', nodeAt js' names = some j' ∧ marked (nodeAt js names) j'

/-- A join put in place at the top of a tree, with the joins below it that the tree had below
its relation, adds the node of its relation's name. -/
theorem PathAdded.top {js : List Join} {j : Join} {marked : Option Join → Join → Prop}
    (under : ∀ m path, j.nodeFrom (m :: path) = nodeAt js (j.relation.name :: m :: path))
    (mark : marked (nodeAt js [j.relation.name]) j) :
    PathAdded js (placeJoin js j) [j.relation.name] marked := by
  refine ⟨fun path => ?_, fun path other k found => ?_, fun path other missing k' found' => ?_,
    ⟨j, by simp [nodeAt_placeJoin], mark⟩⟩
  · rcases path with _ | ⟨n, _ | ⟨m, path⟩⟩
    · simp
    · by_cases named : n = j.relation.name
      · simp [nodeAt_placeJoin, named]
      · simp [nodeAt_placeJoin, named]
    · by_cases named : n = j.relation.name
      · simp [nodeAt_placeJoin, named, under]
      · simp [nodeAt_placeJoin, named]
  · -- a node off the path is found where it was
    rcases path with _ | ⟨n, _ | ⟨m, path⟩⟩
    · simp at found
    · have named : n ≠ j.relation.name := fun same => other (by rw [same])
      exact ⟨k, by simp [nodeAt_placeJoin, named, found], rfl⟩
    · refine ⟨k, ?_, rfl⟩
      by_cases named : n = j.relation.name
      · subst named
        simp [nodeAt_placeJoin, under, found]
      · simp [nodeAt_placeJoin, named, found]
  · rcases path with _ | ⟨n, _ | ⟨m, path⟩⟩
    · simp at found'
    · have named : n ≠ j.relation.name := fun same => other (by rw [same])
      simp [nodeAt_placeJoin, named, missing] at found'
    · by_cases named : n = j.relation.name
      · subst named
        simp [nodeAt_placeJoin, under, missing] at found'
      · simp [nodeAt_placeJoin, named, missing] at found'

/-- Adding a path below a join of the tree, and putting the join in place with the joins
below it that result, adds the path below the join's relation name. -/
theorem PathAdded.through {js old new : List Join} {j : Join} {names : List String}
    {marked : Option Join → Join → Prop} (inner : PathAdded old new names marked) (nonempty : names ≠ [])
    (under : ∀ m path, nodeAt old (m :: path) = nodeAt js (j.relation.name :: m :: path))
    (kept : ∀ k, nodeAt js [j.relation.name] = some k → k.strip = j.strip)
    (bare : nodeAt js [j.relation.name] = none → j.shape = none ∧ j.columns = none) :
    PathAdded js (placeJoin js { j with children := new }) (j.relation.name :: names) marked := by
  have below : ∀ m path, ({ j with children := new } : Join).nodeFrom (m :: path) = nodeAt new (m :: path) :=
    fun m path => nodeFrom_cons _ m path
  obtain ⟨m₀, names', rfl⟩ := List.exists_cons_of_ne_nil nonempty
  refine ⟨fun path => ?_, fun path other k found => ?_, fun path other missing k' found' => ?_, ?_⟩
  · rcases path with _ | ⟨n, _ | ⟨m, path⟩⟩
    · simp
    · by_cases named : n = j.relation.name <;> simp [nodeAt_placeJoin, named]
    · by_cases named : n = j.relation.name
      · subst named
        simp only [nodeAt_placeJoin, if_pos, below, inner.nodes (m :: path), under]
        simp
      · simp [nodeAt_placeJoin, named]
  · rcases path with _ | ⟨n, _ | ⟨m, path⟩⟩
    · simp at found
    · by_cases named : n = j.relation.name
      · -- the join itself is kept, whatever is below it
        subst named
        refine ⟨{ j with children := new }, by simp [nodeAt_placeJoin], ?_⟩
        rw [kept k found]
        rfl
      · exact ⟨k, by simp [nodeAt_placeJoin, named, found], rfl⟩
    · by_cases named : n = j.relation.name
      · subst named
        have inside : m :: path ≠ m₀ :: names' := fun same => other (by rw [same])
        rw [← under] at found
        obtain ⟨k', there, same⟩ := inner.kept (m :: path) inside k found
        exact ⟨k', by simp [nodeAt_placeJoin, below, there], same⟩
      · exact ⟨k, by simp [nodeAt_placeJoin, named, found], rfl⟩
  · rcases path with _ | ⟨n, _ | ⟨m, path⟩⟩
    · simp at found'
    · by_cases named : n = j.relation.name
      · subst named
        simp only [nodeAt_placeJoin, if_pos, nodeFrom_nil, Option.some.injEq] at found'
        subst found'
        exact bare missing
      · simp [nodeAt_placeJoin, named, missing] at found'
    · by_cases named : n = j.relation.name
      · subst named
        have inside : m :: path ≠ m₀ :: names' := fun same => other (by rw [same])
        rw [← under] at missing
        simp only [nodeAt_placeJoin, if_pos, below] at found'
        exact inner.bare (m :: path) inside missing k' found'
      · simp [nodeAt_placeJoin, named, missing] at found'
  · obtain ⟨k', there, mark⟩ := inner.marks
    refine ⟨k', by simp [nodeAt_placeJoin, below, there], ?_⟩
    rwa [← under]

/-- A join for a relation, with the joins below it that the join the relation lands in has,
adds the node of the relation's name. -/
theorem PathAdded.landed {s : TableSchema} {parent : Option String} {js : List Join} {found : Relation}
    {target : TableSchema} {j : Join} {marked : Option Join → Join → Prop} (relation : j.relation = found)
    (children : j.children = (landing s parent js found target).children)
    (mark : marked (nodeAt js [found.name]) j) :
    PathAdded js (placeJoin js j) [found.name] marked := by
  have under : ∀ m path, j.nodeFrom (m :: path) = nodeAt js (j.relation.name :: m :: path) := by
    intro m path
    rw [nodeFrom_cons, children, ← nodeFrom_cons, landing_nodeFrom_cons, relation]
  have top := PathAdded.top under (by rwa [relation])
  rwa [relation] at top

/-! ## Resolving a path -/

section Resolve

variable {cat : Catalog} {shape : Option (List Step)} {s : TableSchema} {parent : Option String}
  {js : List Join} {p : String} {r : Relation} {t : TableSchema}

/-- A path of one relation puts the join it lands in in place, with the shaping calls attached. -/
theorem resolvePath_single (found : s.relation? p = some r) (target : r.joinSchema cat = .ok t) :
    resolvePath cat shape s parent js [p] =
      .ok (placeJoin js (if shape.isSome then { landing s parent js r t with shape := shape }
        else landing s parent js r t)) := by
  rw [resolvePath.eq_2]
  simp only [found, target, bind, Except.bind, pure, Except.pure]
  rfl

/-- A relation followed by a name that is no relation of the join's table restricts the
join's columns. -/
theorem resolvePath_restrict {c : String} (found : s.relation? p = some r) (target : r.joinSchema cat = .ok t)
    (column : ((landing s parent js r t).target.relation? c).isNone) :
    resolvePath cat shape s parent js [p, c] =
      .ok (placeJoin js { landing s parent js r t with
        columns := some ((landing s parent js r t).columns.getD [] ++ if c == "_" then [] else [c]) }) := by
  rw [resolvePath.eq_2]
  simp only [landing, childAlias] at column ⊢
  simp only [found, target, bind, Except.bind, pure, Except.pure]
  rw [if_pos column]

/-- A relation followed by more of the path that does not end at a column of its table
resolves the rest below the join it lands in. -/
theorem resolvePath_through {q : String} {rest : List String} (found : s.relation? p = some r)
    (target : r.joinSchema cat = .ok t)
    (deeper : rest = [] → ((landing s parent js r t).target.relation? q).isSome) :
    resolvePath cat shape s parent js (p :: q :: rest) =
      (resolvePath cat shape (landing s parent js r t).target (some (landing s parent js r t).aliasName)
          (landing s parent js r t).children (q :: rest)).map
        fun children => placeJoin js { landing s parent js r t with children := children } := by
  rw [resolvePath.eq_2]
  simp only [found, target, bind, Except.bind, pure, Except.pure]
  -- the join bound in the body is the one the relation lands in
  have fold : (js.find? (·.relation.name == r.name)).getD
      { relation := r, target := t, aliasName := (parent.map (· ++ "__" ++ r.name)).getD r.name,
        baseAlias := parent.getD s.aliasName } = landing s parent js r t := rfl
  rw [fold]
  rcases rest with _ | ⟨q', rest⟩ <;> dsimp only
  -- a single name after the relation is no column: it is a relation to go through
  on_goal 1 => rw [if_neg (by simpa [Option.isNone_iff_eq_none, Option.ne_none_iff_isSome] using deeper rfl)]
  all_goals
    generalize resolvePath cat shape (landing s parent js r t).target (some (landing s parent js r t).aliasName)
      (landing s parent js r t).children _ = walked
    cases walked <;> rfl

/-- A path that resolves below a placed tree is resolved: the tree gains the nodes of the
path and the node the path ends at is marked. -/
theorem resolvePath_added (shape : Option (List Step)) {s : TableSchema} {names : List String} {found : List Relation}
    {column : Option String} (resolves : PathResolves cat s names found column) :
    ∀ {parent : Option String} {js : List Join}, Placed cat s parent js →
      ∃ js', resolvePath cat shape s parent js names = .ok js' ∧
        PathAdded js js' (found.map (·.name)) (Marked shape column) := by
  induction resolves with
  | @here s p r t lookup joined =>
    intro parent js placed
    obtain ⟨-, landed, -⟩ := placed.landing lookup joined
    obtain ⟨shaped, restricted⟩ := landing_attached s parent js r t
    refine ⟨_, resolvePath_single lookup joined, ?_⟩
    -- the join takes the shaping calls when there are any, and is the landing join otherwise
    refine PathAdded.landed (by split <;> exact landed) (by split <;> rfl) ?_
    cases shape <;> simp [Marked, shaped, restricted]
  | @restrict s p c r t lookup joined missing =>
    intro parent js placed
    obtain ⟨-, landed, targeted⟩ := placed.landing lookup joined
    obtain ⟨shaped, restricted⟩ := landing_attached s parent js r t
    have column : ((landing s parent js r t).target.relation? c).isNone := by
      rw [targeted, missing]
      rfl
    refine ⟨_, resolvePath_restrict lookup joined column, PathAdded.landed landed rfl ?_⟩
    simp only [Marked, restricted, beq_iff_eq]
  | @through s p q rest r t found column lookup joined inner ih =>
    intro parent js placed
    obtain ⟨fits, landed, targeted⟩ := placed.landing lookup joined
    have below := fits.below
    rw [targeted] at below
    obtain ⟨js', walked, added⟩ := ih below
    have deeper : rest = [] → ((landing s parent js r t).target.relation? q).isSome := by
      intro _
      rw [targeted]
      exact inner.head_found
    have walked' : resolvePath cat shape (landing s parent js r t).target (some (landing s parent js r t).aliasName)
        (landing s parent js r t).children (q :: rest) = .ok js' := by
      rw [targeted]
      exact walked
    refine ⟨_, by rw [resolvePath_through lookup joined deeper, walked']; rfl, ?_⟩
    -- the rest of the path is added below the landing join, which keeps what it had
    have nonempty : found.map (·.name) ≠ [] := by simpa using inner.found_ne_nil
    have extended := added.through nonempty
      (fun m path => by rw [← nodeFrom_cons, landing_nodeFrom_cons, landed])
      (fun k existing => by
        rw [landed] at existing
        rw [landing_of_nodeAt existing])
      (fun missing => by
        rw [landed] at missing
        exact (landing_of_nodeAt_none missing).2)
    have names : (r :: found).map (·.name) = (landing s parent js r t).relation.name :: found.map (·.name) := by
      rw [landed, List.map_cons]
    rw [names]
    exact extended

/-- A path that does not resolve below a placed tree fails with a configuration fault. -/
theorem resolvePath_refused (shape : Option (List Step)) {names : List String} (nonempty : names ≠ []) :
    ∀ {s : TableSchema} {parent : Option String} {js : List Join}, Placed cat s parent js →
      (∀ found column, ¬ PathResolves cat s names found column) →
      ∃ msg, resolvePath cat shape s parent js names = .error (.configuration msg) := by
  induction names with
  | nil => exact absurd rfl nonempty
  | cons p rest ih =>
    intro s parent js placed unresolved
    cases lookup : s.relation? p with
    | none => exact ⟨_, by rw [resolvePath.eq_2, lookup]; rfl⟩
    | some r =>
      cases joined : r.joinSchema cat with
      | error f =>
        -- building the relation's table fails with a configuration fault only
        obtain ⟨msg, rfl⟩ := Relation.joinSchema_faults (P := fun f => ∃ m, f = .configuration m)
          (fun m => ⟨m, rfl⟩) cat r f joined
        exact ⟨msg, by rw [resolvePath.eq_2, lookup]; simp only [joined, bind, Except.bind]⟩
      | ok t =>
        obtain ⟨fits, -, targeted⟩ := placed.landing lookup joined
        rcases rest with _ | ⟨q, rest⟩
        · exact absurd (.here lookup joined) (unresolved [r] none)
        · -- the rest of the path does not resolve below the relation's table
          have deeper : rest = [] → ((landing s parent js r t).target.relation? q).isSome := by
            rintro rfl
            rw [targeted]
            cases column : t.relation? q with
            | none => exact absurd (.restrict lookup joined column) (unresolved [r] (some q))
            | some _ => rfl
          obtain ⟨msg, refused⟩ := ih (List.cons_ne_nil q rest) fits.below fun found column inner =>
            unresolved (r :: found) column (.through lookup joined (targeted ▸ inner))
          refine ⟨msg, ?_⟩
          rw [resolvePath_through lookup joined deeper, refused]
          rfl

end Resolve

/-! ## Requests on a select -/

/-- The steps of a sequence of relation requests, each a path with its shaping calls. -/
def requestSteps (calls : List (String × Option (List Step))) : List Step :=
  calls.map fun call => .relation [.str call.1] call.2

/-- What a sequence of relation requests does to a select on table `s`, request by request:
one whose path resolves adds the path's nodes to the tree, keeping it placed; one for any
other path records a configuration fault; once a fault is recorded a request does nothing. -/
inductive Requests (cat : Catalog) (s : TableSchema) : Query → List (String × Option (List Step)) → Query → Prop
  | done {q : Query} : Requests cat s q [] q
  | skipped {q q' : Query} {call : String × Option (List Step)} {calls : List (String × Option (List Step))} :
      q.fault.isSome → Requests cat s q calls q' → Requests cat s q (call :: calls) q'
  | added {q q' : Query} {c : SelectClauses} {name : String} {shape : Option (List Step)}
      {calls : List (String × Option (List Step))} {found : List Relation} {column : Option String}
      {js : List Join} :
      q.fault = none → q.clauses = .select c → PathResolves cat s (Query.pathParts name) found column →
      Placed cat s none js → PathAdded c.relations js (found.map (·.name)) (Marked shape column) →
      Requests cat s { q with clauses := .select { c with relations := js } } calls q' →
      Requests cat s q ((name, shape) :: calls) q'
  | refused {q q' : Query} {name : String} {shape : Option (List Step)}
      {calls : List (String × Option (List Step))} {msg : String} :
      q.fault = none → (∀ found column, ¬ PathResolves cat s (Query.pathParts name) found column) →
      Requests cat s (q.fail (.configuration msg)) calls q' → Requests cat s q ((name, shape) :: calls) q'

section Request

variable {cat : Catalog} {q : Query} {s : TableSchema} {c : SelectClauses}

theorem runStep_relation (fuel : Nat) (select : q.clauses = .select c) (name : String)
    (shape : Option (List Step)) :
    runStep (fuel + 1) cat q (.relation [.str name] shape) =
      if q.fault.isSome then .ok q else q.relate cat (.str name) shape := by
  have found : signature? .select "relation" =
      some { owner := QueryKind.select.builderName, required := ["name"], optional := 1 } := rfl
  have accepted : ({ owner := QueryKind.select.builderName, required := ["name"], optional := 1 } : Signature).check
      "relation" 2 = pure () := rfl
  simp only [runStep, Query.invoke, Query.kind, select, Clauses.kind, found, List.length_singleton]
  cases q.fault with
  | none => simp [accepted]
  | some f => rfl

theorem pathParts_ne_nil (name : String) : Query.pathParts name ≠ [] := by
  simp [Query.pathParts, List.splitOn_ne_nil]

/-- A request for a path that resolves adds the path to the select's tree. -/
theorem relate_resolved (bound : q.schema = some s) (select : q.clauses = .select c)
    (placed : Placed cat s none c.relations) {name : String} (shape : Option (List Step))
    {found : List Relation} {column : Option String}
    (resolves : PathResolves cat s (Query.pathParts name) found column) :
    ∃ js, q.relate cat (.str name) shape = .ok { q with clauses := .select { c with relations := js } } ∧
      Placed cat s none js ∧ PathAdded c.relations js (found.map (·.name)) (Marked shape column) := by
  obtain ⟨js, walked, added⟩ := resolvePath_added shape resolves placed
  refine ⟨js, ?_, Placed.resolvePath _ placed walked, added⟩
  simp only [Query.relate, bound, select, stringArg, walked, bind, Except.bind, pure, Except.pure]

/-- A request for any other path records a configuration fault. -/
theorem relate_refused (bound : q.schema = some s) (select : q.clauses = .select c)
    (placed : Placed cat s none c.relations) {name : String} (shape : Option (List Step))
    (unresolved : ∀ found column, ¬ PathResolves cat s (Query.pathParts name) found column) :
    ∃ msg, q.relate cat (.str name) shape = .ok (q.fail (.configuration msg)) := by
  obtain ⟨msg, refused⟩ := resolvePath_refused shape (pathParts_ne_nil name) placed unresolved
  exact ⟨msg, by simp only [Query.relate, bound, select, stringArg, refused, bind, Except.bind, pure, Except.pure]⟩

/-- Requests run one after another from a select on table `s` with a placed tree do what
`Requests` says, and none of them fails. -/
theorem foldlM_requests (fuel : Nat) (calls : List (String × Option (List Step))) :
    ∀ {q : Query} {c : SelectClauses}, q.schema = some s → q.clauses = .select c → Placed cat s none c.relations →
      ∃ q', (requestSteps calls).foldlM (runStep (fuel + 1) cat) q = .ok q' ∧ Requests cat s q calls q' := by
  -- the invariant carried from request to request: a select on `s` whose tree is placed
  induction calls with
  | nil =>
    intro q c _ _ _
    exact ⟨q, rfl, .done⟩
  | cons call calls ih =>
    obtain ⟨name, shape⟩ := call
    intro q c bound select placed
    simp only [requestSteps, List.map_cons, List.foldlM_cons, runStep_relation fuel select]
    cases faulted : q.fault with
    | some f =>
      obtain ⟨q', run, requested⟩ := ih bound select placed
      refine ⟨q', ?_, .skipped (by rw [faulted]; rfl) requested⟩
      simp only [Option.isSome_some, if_true]
      exact run
    | none =>
      simp only [Option.isSome_none, Bool.false_eq_true, if_false]
      by_cases resolves : ∃ found column, PathResolves cat s (Query.pathParts name) found column
      · obtain ⟨found, column, resolves⟩ := resolves
        obtain ⟨js, related, placed', added⟩ := relate_resolved bound select placed shape resolves
        obtain ⟨q', run, requested⟩ := ih (q := { q with clauses := .select { c with relations := js } }) bound rfl placed'
        refine ⟨q', ?_, .added faulted select resolves placed' added requested⟩
        rw [related]
        exact run
      · have unresolved : ∀ found column, ¬ PathResolves cat s (Query.pathParts name) found column :=
          fun found column resolved => resolves ⟨found, column, resolved⟩
        obtain ⟨msg, related⟩ := relate_refused bound select placed shape unresolved
        have failed : q.fail (.configuration msg) = { q with fault := some (.configuration msg) } := by
          simp [Query.fail, faulted]
        obtain ⟨q', run, requested⟩ := ih (q := q.fail (.configuration msg)) (by rw [failed]; exact bound)
          (by rw [failed]; exact select) placed
        refine ⟨q', ?_, .refused faulted unresolved requested⟩
        rw [related]
        exact run

/-- Relation requests on a select bound to a table, from a tree that requests built, run
without failing: each request for a path that resolves adds exactly the nodes of its path
that were missing, keeps every other node, keeps no two joins of one relation at a level,
and marks the node the path ends at; a request for any other path records a configuration
fault, after which the requests do nothing. -/
theorem relation_requests_extend_join_tree (bound : q.schema = some s) (select : q.clauses = .select c)
    (placed : Placed cat s none c.relations) (calls : List (String × Option (List Step))) :
    ∃ q', Query.run cat q (requestSteps calls) = .ok q' ∧ Requests cat s q calls q' :=
  foldlM_requests _ calls bound select placed

theorem book_select_requests_author :
    ∃ q', Query.run authorCatalog { Query.new .select with schema := some bookTable }
        (requestSteps [("author", none)]) = .ok q' ∧
      Requests authorCatalog bookTable { Query.new .select with schema := some bookTable } [("author", none)] q' :=
  relation_requests_extend_join_tree rfl rfl .nil _

/-- The path `author.bogus` ends with a name that is neither a relation nor a column of the
authors' table, and requesting it records no fault. -/
theorem unknown_last_name_records_no_fault :
    authorTable.column? "bogus" = none ∧ authorTable.relation? "bogus" = none ∧
      (Query.run authorCatalog { Query.new .select with schema := some bookTable }
        (requestSteps [("author.bogus", none)])).map (·.fault) = .ok none := by
  have parts : Query.pathParts "author.bogus" = ["author", "bogus"] := by decide
  have found : bookTable.relation? "author" = some authorRelation := rfl
  refine ⟨rfl, rfl, ?_⟩
  simp [Query.run, requestSteps, runStep, Query.invoke, Query.relate, Query.new, Query.kind, Clauses.empty,
    stringArg, parts, found, authorRelation_joinSchema, resolvePath, placeJoin]
  rfl

end Request

end SqlMapper
