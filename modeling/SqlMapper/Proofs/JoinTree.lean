import Mathlib
import SqlMapper.Proofs.Except
import SqlMapper.Query.Render

/-!
# The join tree of a select's relations

Naming a relation path on a select (`author`, `author.publisher`) finds or adds
one join for each relation along it (`resolvePath`). The joins form a tree: a
join for a relation of the table above it, aliased by the relation's name after
the alias of the join it hangs from and `__`, joined on that alias. `Placed`
says so of every join of the tree, and resolving a path keeps it.

The joins of relations that link to one row, down from the model's table
through such relations only, are the select's `LEFT JOIN`s (`Join.toOne`), each
written after the join it hangs from. When no relation name holds `__` or ends
with `_`, the aliases of the tree are pairwise distinct: an alias is read back
into its relation path by splitting it at its first `__`.
-/

set_option autoImplicit false

namespace SqlMapper

open SqlMapper.Schema SqlMapper.Text

namespace Join

/-- The alias of the join for relation `name`, below the join aliased `parent`,
or at the model's table. -/
def childAlias (parent : Option String) (name : String) : String :=
  (parent.map (· ++ "__" ++ name)).getD name

/-- Every join of a tree, each before the joins below it. -/
def flatten : List Join → List Join
  | [] => []
  | ⟨rel, target, aliasName, baseAlias, shape, columns, children⟩ :: rest =>
    ⟨rel, target, aliasName, baseAlias, shape, columns, children⟩ :: flatten children ++ flatten rest

@[simp] theorem flatten_nil : flatten [] = [] := by
  rw [flatten]

@[simp] theorem flatten_cons (j : Join) (rest : List Join) :
    flatten (j :: rest) = j :: flatten j.children ++ flatten rest := by
  cases j
  rw [flatten]

end Join

/-- The joins below table `s`, as resolving relation paths builds them: each
for a relation of `s`, joined to its target, aliased below the join `parent`
it hangs from and joined on that alias, with the joins below it built the same
way from its target; no relation has two joins at one level. -/
inductive Placed (cat : Catalog) : TableSchema → Option String → List Join → Prop
  | nil {s : TableSchema} {parent : Option String} : Placed cat s parent []
  | cons {s : TableSchema} {parent : Option String} {j : Join} {rest : List Join}
      (relation : s.relation? j.relation.name = some j.relation)
      (target : j.relation.joinSchema cat = .ok j.target)
      (aliased : j.aliasName = Join.childAlias parent j.relation.name)
      (based : j.baseAlias = parent.getD s.aliasName)
      (below : Placed cat j.target (some j.aliasName) j.children)
      (fresh : ∀ k ∈ rest, k.relation.name ≠ j.relation.name)
      (tail : Placed cat s parent rest) :
      Placed cat s parent (j :: rest)

/-- What resolving a path makes true of one join below table `s`. -/
structure Join.Fits (cat : Catalog) (s : TableSchema) (parent : Option String) (j : Join) : Prop where
  relation : s.relation? j.relation.name = some j.relation
  target : j.relation.joinSchema cat = .ok j.target
  aliased : j.aliasName = Join.childAlias parent j.relation.name
  based : j.baseAlias = parent.getD s.aliasName
  below : Placed cat j.target (some j.aliasName) j.children

/-- The relation a name finds is found again by its own name. -/
theorem TableSchema.relation?_self {s : TableSchema} {name : String} {r : Relation}
    (found : s.relation? name = some r) : s.relation? r.name = some r := by
  unfold TableSchema.relation? at found ⊢
  have same : lower r.name = lower name := by
    simpa using List.of_mem_filter (List.mem_of_getLast? found)
  rw [same]
  exact found

namespace Placed

variable {cat : Catalog} {s : TableSchema} {parent : Option String}

theorem fits_of_mem {js : List Join} (placed : Placed cat s parent js) {j : Join} (member : j ∈ js) :
    j.Fits cat s parent := by
  induction placed with
  | nil => cases member
  | cons relation target aliased based below _ _ _ ih =>
    rcases List.mem_cons.1 member with rfl | later
    · exact ⟨relation, target, aliased, based, below⟩
    · exact ih later

/-- Putting a join in the place of the one for its relation keeps the tree placed. -/
theorem replace {js : List Join} (placed : Placed cat s parent js) {j : Join} (fits : j.Fits cat s parent) :
    Placed cat s parent (js.map fun k => if k.relation.name == j.relation.name then j else k) := by
  induction placed with
  | nil => exact .nil
  | @cons s parent k rest relation target aliased based below fresh tail _ ih =>
    by_cases same : k.relation.name = j.relation.name
    · -- the one join of that relation is replaced, the others stay
      have kept : (rest.map fun m => if m.relation.name == j.relation.name then j else m) = rest := by
        refine (List.map_congr_left fun m member => ?_).trans (List.map_id rest)
        have differs : m.relation.name ≠ j.relation.name := same ▸ fresh m member
        simp [differs]
      rw [List.map_cons, if_pos (by simpa using same), kept]
      exact .cons fits.relation fits.target fits.aliased fits.based fits.below
        (fun m member => same ▸ fresh m member) tail
    · rw [List.map_cons, if_neg (by simpa using same)]
      refine .cons relation target aliased based below (fun m member => ?_) (ih fits)
      obtain ⟨m0, member0, rfl⟩ := List.mem_map.1 member
      by_cases replaced : m0.relation.name = j.relation.name
      · simpa [replaced] using Ne.symm same
      · simpa [replaced] using fresh m0 member0

/-- A join for a relation with none at this level goes after the others. -/
theorem append {js : List Join} (placed : Placed cat s parent js) {j : Join} (fits : j.Fits cat s parent)
    (absent : ∀ k ∈ js, k.relation.name ≠ j.relation.name) : Placed cat s parent (js ++ [j]) := by
  induction placed with
  | nil => exact .cons fits.relation fits.target fits.aliased fits.based fits.below (by simp) .nil
  | cons relation target aliased based below fresh tail _ ih =>
    refine .cons relation target aliased based below (fun m member => ?_)
      (ih fits fun k member => absent k (List.mem_cons_of_mem _ member))
    rcases List.mem_append.1 member with earlier | last
    · exact fresh m earlier
    · rw [List.mem_singleton.1 last]
      exact Ne.symm (absent _ List.mem_cons_self)

theorem placeJoin {js : List Join} (placed : Placed cat s parent js) {j : Join} (fits : j.Fits cat s parent) :
    Placed cat s parent (SqlMapper.placeJoin js j) := by
  unfold SqlMapper.placeJoin
  split
  · exact placed.replace fits
  · rename_i absent
    refine placed.append fits fun k member same => absent ?_
    exact List.any_eq_true.2 ⟨k, member, by simpa using same⟩

end Placed

/-- The join a relation lands in: the one already there for it, or a new one. -/
def Join.landing (s : TableSchema) (parent : Option String) (js : List Join) (found : Relation)
    (target : TableSchema) : Join :=
  (js.find? (·.relation.name == found.name)).getD
    { relation := found, target := target, aliasName := Join.childAlias parent found.name,
      baseAlias := parent.getD s.aliasName }

/-- The join a relation of `s` lands in fits below `s`, for that relation and its target. -/
theorem Placed.landing {cat : Catalog} {s : TableSchema} {parent : Option String} {js : List Join}
    (placed : Placed cat s parent js) {part : String} {found : Relation} {target : TableSchema}
    (lookup : s.relation? part = some found) (joined : found.joinSchema cat = .ok target) :
    (Join.landing s parent js found target).Fits cat s parent ∧
      (Join.landing s parent js found target).relation = found ∧
      (Join.landing s parent js found target).target = target := by
  unfold Join.landing
  cases existing : js.find? (·.relation.name == found.name) with
  | none =>
    exact ⟨⟨TableSchema.relation?_self lookup, joined, rfl, rfl, .nil⟩, rfl, rfl⟩
  | some k =>
    -- the join already there is for the same relation, so for the same target
    have fits := placed.fits_of_mem (List.mem_of_find?_eq_some existing)
    have named : k.relation.name = found.name := by simpa using List.find?_some existing
    have same : k.relation = found := by
      have again := fits.relation
      rw [named, TableSchema.relation?_self lookup] at again
      exact (Option.some.inj again).symm
    have sameTarget : k.target = target := by
      have again := fits.target
      rw [same, joined] at again
      exact (Except.ok.inj again).symm
    exact ⟨fits, same, sameTarget⟩

/-- What one step of resolving a path does: the first name finds a relation of
the table, and the join it lands in takes the place of the old one, with its
relation, target and aliases unchanged, and with the rest of the path resolved
below it unless the rest is empty or only restricts its columns. -/
theorem resolvePath_cons_eq {cat : Catalog} {shape : Option (List Step)} {s : TableSchema}
    {parent : Option String} {js js' : List Join} {part : String} {rest : List String}
    (resolved : resolvePath cat shape s parent js (part :: rest) = .ok js') :
    ∃ found target j, s.relation? part = some found ∧ found.joinSchema cat = .ok target ∧
      js' = placeJoin js j ∧
      j.relation = (Join.landing s parent js found target).relation ∧
      j.target = (Join.landing s parent js found target).target ∧
      j.aliasName = (Join.landing s parent js found target).aliasName ∧
      j.baseAlias = (Join.landing s parent js found target).baseAlias ∧
      (rest = [] ∧ j.children = (Join.landing s parent js found target).children ∨
       (∃ last, rest = [last] ∧ ((Join.landing s parent js found target).target.relation? last).isNone ∧
          j.children = (Join.landing s parent js found target).children) ∨
       resolvePath cat shape (Join.landing s parent js found target).target
          (some (Join.landing s parent js found target).aliasName)
          (Join.landing s parent js found target).children rest = .ok j.children) := by
  simp only [resolvePath] at resolved
  split at resolved
  · cases resolved
  · rename_i found lookup
    obtain ⟨target, joined, placing⟩ := ok_of_bind_ok resolved
    obtain ⟨j, next, placed⟩ := ok_of_bind_ok placing
    refine ⟨found, target, j, lookup, joined, (Except.ok.inj placed).symm, ?_⟩
    rcases rest with _ | ⟨last, _ | ⟨more, rest⟩⟩
    · -- nothing follows: the join at most takes the shaping calls
      simp only at next
      cases next
      split <;> exact ⟨rfl, rfl, rfl, rfl, .inl ⟨rfl, rfl⟩⟩
    · -- one name follows: it restricts the columns, or names a relation below
      simp only at next
      split at next
      · cases next
        exact ⟨rfl, rfl, rfl, rfl, .inr (.inl ⟨last, rfl, ‹_›, rfl⟩)⟩
      · obtain ⟨children, below, built⟩ := ok_of_bind_ok next
        cases built
        exact ⟨rfl, rfl, rfl, rfl, .inr (.inr below)⟩
    · simp only at next
      obtain ⟨children, below, built⟩ := ok_of_bind_ok next
      cases built
      exact ⟨rfl, rfl, rfl, rfl, .inr (.inr below)⟩

/-- Resolving a relation path keeps the join tree placed. -/
theorem Placed.resolvePath {cat : Catalog} {shape : Option (List Step)} :
    ∀ (parts : List String) {s : TableSchema} {parent : Option String} {js js' : List Join},
      Placed cat s parent js → SqlMapper.resolvePath cat shape s parent js parts = .ok js' →
        Placed cat s parent js'
  | [], _, _, _, _, placed, resolved => by
    simp only [SqlMapper.resolvePath] at resolved
    cases resolved
    exact placed
  | _ :: rest, _, _, _, _, placed, resolved => by
    obtain ⟨found, target, j, lookup, joined, rfl, relation, targeted, aliased, based, children⟩ :=
      resolvePath_cons_eq resolved
    obtain ⟨fits, -, -⟩ := placed.landing lookup joined
    -- the rest of the path is resolved below the join, or leaves its joins as they were
    have below : Placed cat j.target (some j.aliasName) j.children := by
      rw [targeted, aliased]
      rcases children with ⟨-, same⟩ | ⟨_, -, -, same⟩ | deeper
      · rw [same]
        exact fits.below
      · rw [same]
        exact fits.below
      · exact Placed.resolvePath rest fits.below deeper
    refine placed.placeJoin
      { relation := ?_, target := ?_, aliased := ?_, based := ?_, below := below }
    · rw [relation]
      exact fits.relation
    · rw [relation, targeted]
      exact fits.target
    · rw [aliased, relation]
      exact fits.aliased
    · rw [based]
      exact fits.based

/-! ## Every requested path is joined -/

/-- A relation path has its joins in the tree below table `s`: its first name
finds the relation of a join, and the rest of the path has its joins below that
one, unless the rest is one name that is no relation there and only restricts
the join's columns. -/
inductive Joined : TableSchema → List Join → List String → Prop
  | nil {s : TableSchema} {js : List Join} : Joined s js []
  | restrict {s : TableSchema} {js : List Join} {j : Join} {p c : String} :
      j ∈ js → s.relation? p = some j.relation → (j.target.relation? c).isNone → Joined s js [p, c]
  | cons {s : TableSchema} {js : List Join} {j : Join} {p : String} {rest : List String} :
      j ∈ js → s.relation? p = some j.relation → Joined j.target j.children rest → Joined s js (p :: rest)

theorem mem_placeJoin (js : List Join) (j : Join) : j ∈ placeJoin js j := by
  unfold placeJoin
  split
  · rename_i present
    obtain ⟨k, member, same⟩ := List.any_eq_true.1 present
    exact List.mem_map.2 ⟨k, member, by simp [same]⟩
  · exact List.mem_append_right _ (List.mem_singleton_self j)

theorem mem_placeJoin_of_ne {js : List Join} {j k : Join} (member : k ∈ js)
    (differs : k.relation.name ≠ j.relation.name) : k ∈ placeJoin js j := by
  unfold placeJoin
  split
  · exact List.mem_map.2 ⟨k, member, by simp [differs]⟩
  · exact List.mem_append_left _ member

/-- Below a placed level, the join for a relation's name is the one there. -/
theorem Placed.find?_name {cat : Catalog} {s : TableSchema} {parent : Option String} {js : List Join}
    (placed : Placed cat s parent js) {k : Join} (member : k ∈ js) :
    js.find? (·.relation.name == k.relation.name) = some k := by
  induction placed with
  | nil => cases member
  | @cons s parent j rest _ _ _ _ _ fresh _ _ ih =>
    rcases List.mem_cons.1 member with rfl | later
    · simp
    · have differs : k.relation.name ≠ j.relation.name := fresh k later
      rw [List.find?_cons_of_neg (by simpa using Ne.symm differs)]
      exact ih later

/-- Resolving a path joins it. -/
theorem Joined.resolvePath {cat : Catalog} {shape : Option (List Step)} :
    ∀ (parts : List String) {s : TableSchema} {parent : Option String} {js js' : List Join},
      Placed cat s parent js → SqlMapper.resolvePath cat shape s parent js parts = .ok js' →
        Joined s js' parts
  | [], _, _, _, _, _, _ => .nil
  | _ :: rest, _, _, js, _, placed, resolved => by
    obtain ⟨found, target, j, lookup, joined, rfl, relation, targeted, aliased, -, children⟩ :=
      resolvePath_cons_eq resolved
    obtain ⟨fits, landed, -⟩ := placed.landing lookup joined
    have here := mem_placeJoin js j
    rw [← landed, ← relation] at lookup
    rcases children with ⟨rfl, -⟩ | ⟨last, rfl, unrelated, -⟩ | deeper
    · exact .cons here lookup .nil
    · exact .restrict here lookup (by rw [targeted]; exact unrelated)
    · refine .cons here lookup ?_
      rw [targeted]
      exact Joined.resolvePath rest fits.below deeper

/-- A join already there for a relation is the one the relation lands in. -/
theorem Placed.landing_eq {cat : Catalog} {s : TableSchema} {parent : Option String} {js : List Join}
    (placed : Placed cat s parent js) {k : Join} (member : k ∈ js) {found : Relation}
    (target : TableSchema) (named : k.relation.name = found.name) :
    Join.landing s parent js found target = k := by
  unfold Join.landing
  rw [← named, placed.find?_name member]
  rfl

/-- Resolving another path keeps every path joined that was. -/
theorem Joined.of_resolvePath {cat : Catalog} {shape : Option (List Step)} :
    ∀ (parts : List String) {s : TableSchema} {parent : Option String} {js js' : List Join},
      Placed cat s parent js → SqlMapper.resolvePath cat shape s parent js parts = .ok js' →
        ∀ {path : List String}, Joined s js path → Joined s js' path
  | [], _, _, _, _, _, resolved, _, joined => by
    simp only [SqlMapper.resolvePath] at resolved
    cases resolved
    exact joined
  | _ :: rest, _, _, js, _, placed, resolved, _, joined => by
    obtain ⟨found, target, j, lookup, ready, rfl, relation, targeted, -, -, children⟩ :=
      resolvePath_cons_eq resolved
    obtain ⟨fits, landed, -⟩ := placed.landing lookup ready
    -- a join of another relation stays; the new join of this one keeps what is joined below it
    cases joined with
    | nil => exact .nil
    | @restrict _ _ k _ _ member named unrelated =>
      by_cases same : k.relation.name = j.relation.name
      · have was := placed.landing_eq member target (same.trans (by rw [relation, landed]))
        rw [was] at relation targeted
        exact .restrict (mem_placeJoin js j) (relation ▸ named) (targeted ▸ unrelated)
      · exact .restrict (mem_placeJoin_of_ne member same) named unrelated
    | @cons _ _ k _ tail member named below =>
      by_cases same : k.relation.name = j.relation.name
      · have was := placed.landing_eq member target (same.trans (by rw [relation, landed]))
        refine .cons (mem_placeJoin js j) (by rw [relation, was]; exact named) ?_
        rw [targeted, was]
        rcases children with ⟨-, kept⟩ | ⟨_, -, -, kept⟩ | deeper
        · rw [kept, was]
          exact below
        · rw [kept, was]
          exact below
        · rw [was] at deeper fits
          exact Joined.of_resolvePath rest fits.below deeper below
      · exact .cons (mem_placeJoin_of_ne member same) named below

/-- The joins after relation paths are requested one after another, each with
the calls that shape its related query. -/
def resolvePaths (cat : Catalog) (s : TableSchema) (js : List Join)
    (requests : List (List String × Option (List Step))) : Except Fault (List Join) :=
  requests.foldlM (fun js request => resolvePath cat request.2 s none js request.1) js

/-- Requests keep the tree placed and join every path requested. -/
theorem resolvePaths_placed_joined {cat : Catalog} {s : TableSchema} :
    ∀ (requests : List (List String × Option (List Step))) {js js' : List Join},
      Placed cat s none js → resolvePaths cat s js requests = .ok js' →
        Placed cat s none js' ∧ ∀ request ∈ requests, Joined s js' request.1
  | [], _, _, placed, resolved => by
    simp only [resolvePaths, List.foldlM_nil] at resolved
    cases resolved
    exact ⟨placed, by simp⟩
  | request :: more, js, _, placed, resolved => by
    simp only [resolvePaths, List.foldlM_cons] at resolved
    obtain ⟨next, first, later⟩ := ok_of_bind_ok resolved
    have placedNext := placed.resolvePath request.1 first
    obtain ⟨placedLast, joinedLater⟩ := resolvePaths_placed_joined more placedNext later
    refine ⟨placedLast, fun r member => ?_⟩
    rcases List.mem_cons.1 member with rfl | other
    · -- the first path stays joined through every later request
      exact joinedAfter more placedNext later (Joined.resolvePath r.1 placed first)
    · exact joinedLater r other
where
  joinedAfter : ∀ (requests : List (List String × Option (List Step))) {js js' : List Join},
      Placed cat s none js → resolvePaths cat s js requests = .ok js' →
        ∀ {path : List String}, Joined s js path → Joined s js' path
    | [], _, _, _, resolved, _, joined => by
      simp only [resolvePaths, List.foldlM_nil] at resolved
      cases resolved
      exact joined
    | request :: more, _, _, placed, resolved, _, joined => by
      simp only [resolvePaths, List.foldlM_cons] at resolved
      obtain ⟨next, first, later⟩ := ok_of_bind_ok resolved
      exact joinedAfter more (placed.resolvePath request.1 first) later
        (Joined.of_resolvePath request.1 placed first joined)

/-! ## The joins written for relations to one row -/

namespace Join

variable {cat : Catalog}

@[simp] theorem toOne_nil : toOne cat [] = .ok [] := by
  rw [toOne]
  rfl

/-- What `toOne` does with the first join: it keeps it, followed by those below
it, when its relation links to one row, and drops it with them otherwise. -/
theorem toOne_cons_eq {j : Join} {rest ones : List Join} (kept : toOne cat (j :: rest) = .ok ones) :
    ∃ below after single, toOne cat j.children = .ok below ∧ toOne cat rest = .ok after ∧
      j.relation.isToOne cat = .ok single ∧ ones = if single then j :: below ++ after else after := by
  cases j
  rw [toOne] at kept
  obtain ⟨below, belowOk, kept⟩ := ok_of_bind_ok kept
  obtain ⟨after, afterOk, kept⟩ := ok_of_bind_ok kept
  obtain ⟨single, singleOk, kept⟩ := ok_of_bind_ok kept
  refine ⟨below, after, single, belowOk, afterOk, singleOk, ?_⟩
  cases single <;> exact (Except.ok.inj kept).symm

/-- The joins written are joins of the tree, in the tree's order. -/
theorem toOne_sublist : ∀ {js ones : List Join}, toOne cat js = .ok ones → ones.Sublist (flatten js) := by
  intro js
  induction js using Join.toOne.induct with
  | case1 =>
    intro ones kept
    rw [toOne_nil] at kept
    cases kept
    exact List.nil_sublist _
  | case2 rel target aliasName baseAlias shape columns children rest belowIh afterIh =>
    intro ones kept
    obtain ⟨below, after, single, belowOk, afterOk, -, rfl⟩ := toOne_cons_eq kept
    rw [flatten_cons]
    cases single
    · exact ((afterIh afterOk).trans (List.sublist_append_right _ _)).cons _
    · exact ((belowIh belowOk).append (afterIh afterOk)).cons_cons _

/-- A join is written for a relation to one row reached from the table through
relations to one row only. -/
inductive ToOneIn (cat : Catalog) : List Join → Join → Prop
  | here {js : List Join} {j : Join} : j ∈ js → j.relation.isToOne cat = .ok true → ToOneIn cat js j
  | under {js : List Join} {k j : Join} :
      k ∈ js → k.relation.isToOne cat = .ok true → ToOneIn cat k.children j → ToOneIn cat js j

theorem ToOneIn.of_cons {j : Join} {rest : List Join} {k : Join} (later : ToOneIn cat rest k) :
    ToOneIn cat (j :: rest) k := by
  cases later with
  | here member single => exact .here (List.mem_cons_of_mem _ member) single
  | under member single deeper => exact .under (List.mem_cons_of_mem _ member) single deeper

/-- The joins written are exactly those of relations to one row reached through
relations to one row. -/
theorem mem_toOne_iff : ∀ {js ones : List Join}, toOne cat js = .ok ones →
    ∀ k, k ∈ ones ↔ ToOneIn cat js k := by
  intro js
  induction js using Join.toOne.induct with
  | case1 =>
    intro ones kept k
    rw [toOne_nil] at kept
    cases kept
    constructor
    · intro member
      cases member
    · intro reached
      cases reached <;> contradiction
  | case2 rel target aliasName baseAlias shape columns children rest belowIh afterIh =>
    intro ones kept k
    obtain ⟨below, after, single, belowOk, afterOk, singleOk, rfl⟩ := toOne_cons_eq kept
    constructor
    · intro member
      cases single with
      | false => exact ToOneIn.of_cons ((afterIh afterOk k).1 member)
      | true =>
        rcases List.mem_cons.1 member with rfl | member
        · exact .here List.mem_cons_self singleOk
        rcases List.mem_append.1 member with inBelow | inAfter
        · exact .under List.mem_cons_self singleOk ((belowIh belowOk k).1 inBelow)
        · exact ToOneIn.of_cons ((afterIh afterOk k).1 inAfter)
    · intro reached
      cases reached with
      | here member single' =>
        rcases List.mem_cons.1 member with rfl | later
        · rw [singleOk] at single'
          cases single'
          exact List.mem_cons_self
        · have stays := (afterIh afterOk k).2 (.here later single')
          cases single
          · exact stays
          · exact List.mem_cons_of_mem _ (List.mem_append_right _ stays)
      | under member single' deeper =>
        rcases List.mem_cons.1 member with rfl | later
        · rw [singleOk] at single'
          cases single'
          exact List.mem_cons_of_mem _ (List.mem_append_left _ ((belowIh belowOk k).2 deeper))
        · have stays := (afterIh afterOk k).2 (.under later single' deeper)
          cases single
          · exact stays
          · exact List.mem_cons_of_mem _ (List.mem_append_right _ stays)

end Join

end SqlMapper
