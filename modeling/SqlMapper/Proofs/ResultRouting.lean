import Mathlib
import SqlMapper.Proofs.JoinAliases
import SqlMapper.Proofs.EmbeddedColumns

/-!
# Routing result columns back to where they were selected

A select reads a joined relation's columns under the names `alias__column`, the alias being the
relation names that lead to the join, joined with `__`. Reading a row back, the plan of the model
(`RowPlan.build`) takes each result name in turn: a name that is, case ignored, one of the
table's columns is that column; otherwise it is split at its first `__`, and the rest goes on into
the nested plan of the relation the first part names. A plan grows that way from the plan of its
class and keeps what it routed (`RowPlan.Grown`, `RowPlan.routes_of_add`).

When every joined relation reads back (`Readable`: its name holds no `__` and does not end with
`_`, no column of the table it hangs from is named `<relation>__...`, and names lowercase
stably), the name `alias__column` of a join reached through relations to one row is routed to
that column, in the nested plan reached through those relations' attributes
(`RowPlan.add_along`). Lowercasing goes through `__` piece by piece (`Text.lower_append_sep`).
-/

set_option autoImplicit false

namespace SqlMapper

open SqlMapper.Schema SqlMapper.Text

/-! ## Lowercase across `__` -/

namespace Text

/-- Whether the first letter past the case-ignorable ones is cased: what the rule for a final
sigma asks of the letters on either side of it. -/
def headCased (l : List Char) : Bool :=
  match l.dropWhile isCaseIgnorable with
  | c :: _ => isCased c
  | [] => false

theorem sigmaIsFinal_eq (before after : List Char) :
    sigmaIsFinal before after = (headCased before && !headCased after) := by
  unfold sigmaIsFinal headCased
  cases before.dropWhile isCaseIgnorable <;> cases after.dropWhile isCaseIgnorable <;> rfl

theorem underscore_not_caseIgnorable : isCaseIgnorable '_' = false := by decide +kernel

theorem underscore_not_cased : isCased '_' = false := by decide

theorem lowerChar_underscore : lowerChar '_' = ['_'] := by decide

/-- An underscore stops the look for a cased letter. -/
theorem headCased_append_underscore (r : List Char) :
    ∀ l : List Char, headCased (l ++ '_' :: r) = headCased l
  | [] => by simp [headCased, underscore_not_caseIgnorable, underscore_not_cased]
  | c :: l => by
    have later := headCased_append_underscore r l
    by_cases ignorable : isCaseIgnorable c = true
    · simpa only [headCased, List.cons_append, List.dropWhile_cons, ignorable, ↓reduceIte] using later
    · simp [headCased, ignorable]

/-- Letters passed before an underscore do not change how the letters after it lowercase. -/
theorem lowerList_past_underscore (rest : List Char) :
    ∀ (ys passed : List Char), lowerList (passed ++ '_' :: rest) ys = lowerList passed ys
  | [], _ => rfl
  | c :: ys, passed => by
    simp only [lowerList, sigmaIsFinal_eq, headCased_append_underscore]
    rw [← List.cons_append, lowerList_past_underscore rest ys (c :: passed)]

/-- Lowercasing goes through `__` piece by piece. -/
theorem lowerList_append_underscores :
    ∀ (xs before ys : List Char),
      lowerList before (xs ++ '_' :: '_' :: ys) = lowerList before xs ++ '_' :: '_' :: lowerList [] ys
  | [], before, ys => by
    have apart : ('_' = 'Σ') = False := by simp
    simp only [List.nil_append, lowerList, apart, if_false, lowerChar_underscore, List.singleton_append]
    rw [← List.nil_append ('_' :: '_' :: before), lowerList_past_underscore]
  | c :: xs, before, ys => by
    simp only [List.cons_append, lowerList, sigmaIsFinal_eq, headCased_append_underscore,
      lowerList_append_underscores xs (c :: before) ys, List.append_assoc]

/-- The lowercase of a name with a `__` is the lowercase of its two sides around `__`. -/
theorem lower_append_sep (a b : String) : lower (a ++ "__" ++ b) = lower a ++ "__" ++ lower b := by
  have sep : ("__" : String).toList = ['_', '_'] := rfl
  have sepBack : String.ofList ['_', '_'] = "__" := rfl
  simp only [lower, String.toList_append, sep, List.append_assoc, List.cons_append, List.nil_append,
    lowerList_append_underscores]
  rw [← sepBack, ← String.ofList_append, ← String.ofList_append]
  simp

end Text

/-! ## Keyed entries -/

section SetKey

variable {α : Type}

/-- The first entry of a key, read as a condition on the first entry. -/
theorem lookup_cons_ite (a k : String) (b : α) (rest : List (String × α)) :
    ((a, b) :: rest).lookup k = if k = a then some b else rest.lookup k := by
  rw [List.lookup_cons]
  by_cases same : k = a
  · simp [same]
  · rw [beq_false_of_ne same, if_neg same]

/-- Replacing the value of every entry of a key. -/
theorem lookup_map_replace (k : String) (x : α) (k' : String) :
    ∀ es : List (String × α), (es.map fun e => if e.1 == k then (k, x) else e).lookup k' =
      if k' = k then (if ∃ e ∈ es, e.1 = k then some x else none) else es.lookup k'
  | [] => by simp
  | (a, b) :: rest => by
    have later := lookup_map_replace k x k' rest
    simp only [beq_iff_eq] at later
    by_cases here : a = k
    · subst here
      by_cases same : k' = a <;> simp [lookup_cons_ite, same, later]
    · by_cases same : k' = k
      · subst same
        have outside : (∃ e ∈ (a, b) :: rest, e.1 = k') ↔ ∃ e ∈ rest, e.1 = k' := by simp [here]
        rw [if_congr outside rfl rfl]
        simp [lookup_cons_ite, here, later, Ne.symm here]
      · by_cases other : k' = a <;> simp [lookup_cons_ite, here, later, same, other]

/-- A set key holds the value set; every other key keeps its value. -/
theorem lookup_setKey (es : List (String × α)) (k : String) (x : α) (k' : String) :
    (setKey es k x).lookup k' = if k' = k then some x else es.lookup k' := by
  unfold setKey
  split
  · rename_i present
    have inEs : ∃ e ∈ es, e.1 = k := by simpa using present
    rw [lookup_map_replace]
    by_cases same : k' = k <;> simp [same, inEs]
  · rename_i absent
    by_cases same : k' = k
    · subst same
      have missing : es.lookup k' = none := by
        rw [List.lookup_eq_none_iff]
        intro p mem
        rw [bne_iff_ne]
        rintro rfl
        exact absent (List.any_eq_true.2 ⟨p, mem, by simp⟩)
      simp [List.lookup_append, missing]
    · simp [List.lookup_append, List.lookup_cons, same, beq_false_of_ne same]

@[simp] theorem lookup_setKey_self (es : List (String × α)) (k : String) (x : α) :
    (setKey es k x).lookup k = some x := by
  simp [lookup_setKey]

theorem lookup_setKey_of_ne {es : List (String × α)} {k k' : String} (x : α) (other : k' ≠ k) :
    (setKey es k x).lookup k' = es.lookup k' := by
  simp [lookup_setKey, other]

/-- Setting a key keeps the keys distinct. -/
theorem setKey_keys_nodup {es : List (String × α)} (distinct : (es.map (·.1)).Nodup) (k : String) (x : α) :
    ((setKey es k x).map (·.1)).Nodup := by
  unfold setKey
  split
  · rename_i present
    rw [List.map_map]
    convert distinct using 1
    refine List.map_congr_left fun e _ => ?_
    by_cases same : e.1 = k <;> simp [same]
  · rename_i absent
    rw [List.map_append, List.nodup_append]
    refine ⟨distinct, by simp, ?_⟩
    simp only [List.map_cons, List.map_nil, List.mem_singleton]
    rintro a member b rfl rfl
    obtain ⟨e, mem, rfl⟩ := List.mem_map.1 member
    exact absurd (List.any_eq_true.2 ⟨e, mem, by simp⟩) absent

end SetKey


/-! ## Lists related item by item -/

/-- Keeping the items of related lists that agree on a test keeps them related. -/
theorem forall₂_filter {α β : Type} {R : α → β → Prop} {p : α → Bool} {q : β → Bool} :
    ∀ {xs : List α} {ys : List β}, List.Forall₂ R xs ys → (∀ x y, R x y → p x = q y) →
      List.Forall₂ R (xs.filter p) (ys.filter q)
  | [], [], .nil, _ => .nil
  | x :: xs, y :: ys, .cons first rest, agree => by
    have later := forall₂_filter rest agree
    rw [List.filter_cons, List.filter_cons, agree x y first]
    split
    · exact .cons first later
    · exact later

/-- The last items of related lists are related. -/
theorem forall₂_getLast? {α β : Type} {R : α → β → Prop} {xs : List α} {ys : List β}
    (related : List.Forall₂ R xs ys) {x : α} (last : xs.getLast? = some x) :
    ∃ y, ys.getLast? = some y ∧ R x y := by
  rw [List.getLast?_eq_getElem?] at last ⊢
  rw [← related.length_eq]
  exact getElem?_of_forall₂ related last

/-- The last item of a list, kept by a test, is the last item the test keeps. -/
theorem getLast?_filter_of_getLast? {α : Type} {l : List α} {x : α} {p : α → Bool}
    (last : l.getLast? = some x) (kept : p x = true) : (l.filter p).getLast? = some x := by
  obtain ⟨front, rfl⟩ := List.getLast?_eq_some_iff.1 last
  simp [List.filter_append, kept]

/-! ## Routing result columns -/

namespace RowPlan

variable {cat : Catalog}

/-- The nested plan that routing a name through nested target `n` goes on in: the one the plan
holds for `n`'s attribute, or else a new plan of the class `n` holds. -/
def childFor (cat : Catalog) (plan : RowPlan) (n : NestedTarget) : Except Fault RowPlan :=
  match plan.children.lookup n.attr with
  | some (_, c) => pure c
  | none => RowPlan.new cat n.target

/-- A name that some column takes, case ignored, is routed to the last such column. -/
theorem add_succ_of_column {fuel : Nat} {plan : RowPlan} {index : Nat} {name : String} {col : Column}
    (found : (plan.columns.filter fun c => lower c.name == lower name).getLast? = some col) :
    add cat (fuel + 1) plan index name =
      .ok (some { plan with assignments := plan.assignments ++ [(index, col)] }) := by
  rw [add]
  simp only [found]
  rfl

/-- A name that no column takes goes, past its first `__`, into the nested plan of the target
its first part names. -/
theorem add_succ_of_nested {fuel : Nat} {plan : RowPlan} {index : Nat} {name pre rest : String}
    {n : NestedTarget} {child child' : RowPlan}
    (unmatched : (plan.columns.filter fun c => lower c.name == lower name).getLast? = none)
    (split : splitNested (lower name) = some (pre, rest)) (found : plan.nested.find? (·.key == pre) = some n)
    (chosen : childFor cat plan n = .ok child) (inner : add cat fuel child index rest = .ok (some child')) :
    add cat (fuel + 1) plan index name =
      .ok (some { plan with children := setKey plan.children n.attr (n.nullable, child') }) := by
  rw [add]
  simp only [unmatched, split, found]
  cases held : plan.children.lookup n.attr with
  | none =>
    simp only [childFor, held] at chosen
    simp only [chosen, inner, bind, Except.bind]
    rfl
  | some entry =>
    obtain ⟨nullable, c⟩ := entry
    simp only [childFor, held, pure, Except.pure, Except.ok.injEq] at chosen
    subst chosen
    simp only [inner, bind, Except.bind, pure, Except.pure]

/-- What routing a name does when it takes it: it assigns it to the last column that takes it,
or, when none does, routes the rest past the first `__` into the nested plan for the target the
first part names. -/
theorem add_succ_eq_some {fuel : Nat} {plan : RowPlan} {index : Nat} {name : String} {plan' : RowPlan}
    (added : add cat (fuel + 1) plan index name = .ok (some plan')) :
    (∃ col, (plan.columns.filter fun c => lower c.name == lower name).getLast? = some col ∧
      plan' = { plan with assignments := plan.assignments ++ [(index, col)] }) ∨
    ∃ pre rest n child child', (plan.columns.filter fun c => lower c.name == lower name).getLast? = none ∧
      splitNested (lower name) = some (pre, rest) ∧ plan.nested.find? (·.key == pre) = some n ∧
      childFor cat plan n = .ok child ∧ add cat fuel child index rest = .ok (some child') ∧
      plan' = { plan with children := setKey plan.children n.attr (n.nullable, child') } := by
  cases found : (plan.columns.filter fun c => lower c.name == lower name).getLast? with
  | some col =>
    rw [add_succ_of_column found] at added
    cases added
    exact .inl ⟨col, rfl, rfl⟩
  | none =>
    refine .inr ?_
    rw [add] at added
    simp only [found] at added
    cases split : splitNested (lower name) with
    | none => simp [split, pure, Except.pure] at added
    | some parts =>
      obtain ⟨pre, rest⟩ := parts
      cases targeted : plan.nested.find? (·.key == pre) with
      | none => simp [split, targeted, pure, Except.pure] at added
      | some n =>
        simp only [split, targeted] at added
        refine ⟨pre, rest, n, ?_⟩
        rcases held : plan.children.lookup n.attr with _ | ⟨nullable, c⟩ <;> simp only [held] at added <;>
        · obtain ⟨child, chosen, added⟩ := ok_of_bind_ok added
          obtain ⟨routed, inner, added⟩ := ok_of_bind_ok added
          cases routed with
          | none => cases added
          | some child' =>
            simp only [pure, Except.pure, Except.ok.injEq, Option.some.injEq] at added
            exact ⟨child, child', rfl, rfl, targeted, by simpa only [childFor, held] using chosen, inner, added.symm⟩

/-- Adds a nested target, in the place of those of its key if there are any. -/
def replaceKey (acc : List NestedTarget) (n : NestedTarget) : List NestedTarget :=
  if acc.any (·.key == n.key) then acc.map (fun m => if m.key == n.key then n else m) else acc ++ [n]

/-- The nested targets of a table's relations to one row, one per name case ignored, the later
relation of a name taking the place of the earlier. -/
def keyedTargets (rels : List NestedTarget) : List NestedTarget := rels.foldl replaceKey []

/-- After adding a target, a key finds that target if it is its key, and what it found before
otherwise. -/
theorem find?_replaceKey (acc : List NestedTarget) (n : NestedTarget) (k : String) :
    (replaceKey acc n).find? (·.key == k) = if n.key = k then some n else acc.find? (·.key == k) := by
  unfold replaceKey
  split
  · rename_i present
    rw [List.find?_map]
    by_cases same : n.key = k
    · subst same
      obtain ⟨m, mem, keyed⟩ := List.any_eq_true.1 present
      have found : (acc.find? fun m => m.key == n.key).isSome := List.find?_isSome.2 ⟨m, mem, keyed⟩
      obtain ⟨m0, hm0⟩ := Option.isSome_iff_exists.1 found
      have keyOf : m0.key = n.key := by simpa using List.find?_some hm0
      have sameTest : ((fun m => m.key == n.key) ∘ fun m => if m.key == n.key then n else m) = fun m => m.key == n.key := by
        funext m
        by_cases here : m.key = n.key <;> simp [here]
      rw [sameTest, hm0]
      simp [keyOf]
    · have sameTest : ((fun m => m.key == k) ∘ fun m => if m.key == n.key then n else m) = fun m => m.key == k := by
        funext m
        by_cases here : m.key = n.key <;> simp [here]
      rw [sameTest, if_neg same]
      cases found : acc.find? (·.key == k) with
      | none => rfl
      | some m =>
        have keyOf : m.key = k := by simpa using List.find?_some found
        have other : m.key ≠ n.key := fun eq => same (eq ▸ keyOf)
        simp [other]
  · rename_i absent
    rw [List.find?_append]
    by_cases same : n.key = k
    · subst same
      have missing : acc.find? (·.key == n.key) = none := by
        rw [List.find?_eq_none]
        intro m mem keyed
        exact absent (List.any_eq_true.2 ⟨m, mem, keyed⟩)
      simp [missing]
    · simp [same]

/-- The keyed targets hold, for a key, the last relation's target of that key. -/
theorem find?_foldl_replaceKey (k : String) :
    ∀ (rels acc : List NestedTarget), (rels.foldl replaceKey acc).find? (·.key == k) =
      ((rels.filter (·.key == k)).getLast?).or (acc.find? (·.key == k))
  | [], acc => by simp
  | n :: rels, acc => by
    rw [List.foldl_cons, find?_foldl_replaceKey k rels, find?_replaceKey]
    by_cases same : n.key = k
    · cases last : (rels.filter (·.key == k)).getLast? <;> simp [same, last, List.getLast?_cons]
    · simp [same]

/-- A fold whose every step appends keeps what it starts from in front. -/
theorem foldl_appending {α : Type} {F : List α → α → List α} (grows : ∀ acc a, ∃ more, F acc a = acc ++ more) :
    ∀ (l acc : List α), ∃ more, l.foldl F acc = acc ++ more
  | [], acc => ⟨[], by simp⟩
  | a :: l, acc => by
    obtain ⟨first, step⟩ := grows acc a
    obtain ⟨rest, later⟩ := foldl_appending grows l (F acc a)
    exact ⟨first ++ rest, by rw [List.foldl_cons, later, step, List.append_assoc]⟩

/-- What the plan of a table class starts from: the table's columns, no routed column and no
nested plan, and nested targets that begin with those of the relations to one row, each the
target of its relation. -/
theorem new_of_schema {t : Ty} {s : TableSchema} {p : RowPlan} (schema : cat.schemaOf t = .ok s)
    (made : RowPlan.new cat t = .ok p) :
    p.columns = s.columns ∧ p.assignments = [] ∧ p.children = [] ∧
      ∃ rels extra, List.Forall₂ (fun r n => ∃ tc, r.targetClass cat = .ok tc ∧
          n = ⟨lower r.name, r.name, tc, r.nullable⟩) (s.relations.filter (!·.toMany)) rels ∧
        p.nested = keyedTargets rels ++ extra := by
  obtain ⟨c, rfl, table⟩ : ∃ c, t = .cls c ∧ (c.sort == .table) = true := by
    unfold Catalog.schemaOf at schema
    split at schema
    · split at schema
      · exact ⟨_, rfl, by assumption⟩
      · cases schema
    · cases schema
  have built : cat.schema c = .ok s := schema
  unfold RowPlan.new at made
  simp only [table, if_true] at made
  obtain ⟨s', built', made⟩ := ok_of_bind_ok made
  rw [built] at built'
  cases built'
  obtain ⟨rels, relsOk, made⟩ := ok_of_bind_ok made
  simp only [pure, Except.pure, bind, Except.bind, Except.ok.injEq] at made
  subst made
  refine ⟨rfl, rfl, rfl, rels, (foldl_appending ?_ _ _).imp fun extra appended =>
    ⟨(forall₂_of_mapM_ok relsOk).imp fun r n made => ?_, appended⟩⟩
  · intro acc n
    split
    · exact ⟨[], (List.append_nil _).symm⟩
    · exact ⟨[n], rfl⟩
  · obtain ⟨tc, targeted, made⟩ := ok_of_bind_ok made
    exact ⟨tc, targeted, (Except.ok.inj made).symm⟩

/-- A table's relation to one row, which its name finds, has a nested target: it is keyed by the
name lowercased and holds the relation's target class. -/
theorem find?_nested_of_relation {t : Ty} {s : TableSchema} {p : RowPlan} (schema : cat.schemaOf t = .ok s)
    (made : RowPlan.new cat t = .ok p) {r : Relation} (found : s.relation? r.name = some r)
    (single : r.toMany = false) :
    ∃ tc, r.targetClass cat = .ok tc ∧
      p.nested.find? (·.key == lower r.name) = some ⟨lower r.name, r.name, tc, r.nullable⟩ := by
  obtain ⟨-, -, -, rels, extra, related, nested⟩ := new_of_schema schema made
  have lastRel : ((s.relations.filter (!·.toMany)).filter fun r' => lower r'.name == lower r.name).getLast? =
      some r := by
    rw [List.filter_comm]
    exact getLast?_filter_of_getLast? found (by simp [single])
  have keptRelated := forall₂_filter (p := fun r' => lower r'.name == lower r.name)
    (q := fun n => n.key == lower r.name) related fun r' n ⟨_, _, same⟩ => by
      subst same
      rfl
  obtain ⟨n, lastTarget, tc, targeted, rfl⟩ := forall₂_getLast? keptRelated lastRel
  refine ⟨tc, targeted, ?_⟩
  rw [nested, List.find?_append, keyedTargets, find?_foldl_replaceKey, lastTarget]
  rfl

/-- A new plan holds no nested plan. -/
theorem new_children {t : Ty} {p : RowPlan} (made : RowPlan.new cat t = .ok p) : p.children = [] := by
  unfold RowPlan.new at made
  split at made
  · split at made
    · obtain ⟨_, -, made⟩ := ok_of_bind_ok made
      obtain ⟨_, -, made⟩ := ok_of_bind_ok made
      cases made
      rfl
    · obtain ⟨_, -, made⟩ := ok_of_bind_ok made
      cases made
      rfl
  · cases made

theorem add_zero (plan : RowPlan) (index : Nat) (name : String) : add cat 0 plan index name = .ok none := rfl

/-- Where a plan routes the result column at `index`: to the column `col` of the nested plan it
reaches through the attributes `path`. -/
inductive Routes : RowPlan → List String → Column → Nat → Prop
  | here {plan : RowPlan} {col : Column} {index : Nat} :
      (index, col) ∈ plan.assignments → Routes plan [] col index
  | through {plan : RowPlan} {attr : String} {nullable : Bool} {child : RowPlan} {path : List String} {col : Column}
      {index : Nat} :
      plan.children.lookup attr = some (nullable, child) → Routes child path col index →
        Routes plan (attr :: path) col index

/-- Routing another name keeps every route. -/
theorem routes_of_add : ∀ {fuel : Nat} {plan : RowPlan} {index : Nat} {name : String} {plan' : RowPlan},
    add cat fuel plan index name = .ok (some plan') →
      ∀ {path : List String} {col : Column} {i : Nat}, Routes plan path col i → Routes plan' path col i
  | 0, _, _, _, _, added, _, _, _, _ => by cases added
  | fuel + 1, plan, index, name, plan', added, path, col, i, routed => by
    rcases add_succ_eq_some added with ⟨c, -, rfl⟩ | ⟨pre, rest, n, child, child', -, -, -, chosen, inner, rfl⟩
    · cases routed with
      | here mem => exact .here (List.mem_append_left _ mem)
      | through held below => exact .through held below
    · cases routed with
      | here mem => exact .here mem
      | @through _ a nullable c _ _ _ held below =>
        by_cases same : a = n.attr
        · subst same
          have reused : child = c := by
            unfold childFor at chosen
            rw [held] at chosen
            exact (Except.ok.inj chosen).symm
          subst reused
          exact .through (lookup_setKey_self _ _ _) (routes_of_add inner below)
        · exact .through (by rw [lookup_setKey_of_ne _ same]; exact held) below

/-- A plan as routing names grows it from the plan of class `t`: it has that plan's columns and
nested targets, it holds its nested plans under distinct attributes, each with the `None` rule of a
nested target of its attribute, and each nested plan is grown from the plan of the class that a
nested target of its attribute holds (`targetOf`). -/
inductive Grown (cat : Catalog) : Ty → RowPlan → Prop
  | mk {t : Ty} {plan fresh : RowPlan} (targetOf : String → NestedTarget) (made : RowPlan.new cat t = .ok fresh)
      (columns : plan.columns = fresh.columns) (nested : plan.nested = fresh.nested)
      (keys : (plan.children.map (·.1)).Nodup)
      (held : ∀ a nullable child, plan.children.lookup a = some (nullable, child) →
        targetOf a ∈ plan.nested ∧ (targetOf a).attr = a ∧ ∃ n ∈ plan.nested, n.attr = a ∧ n.nullable = nullable)
      (children : ∀ a nullable child, plan.children.lookup a = some (nullable, child) →
        Grown cat (targetOf a).target child) :
      Grown cat t plan

/-- A new plan is grown from itself. -/
theorem Grown.new {t : Ty} {p : RowPlan} (made : RowPlan.new cat t = .ok p) : Grown cat t p := by
  have empty := new_children made
  refine ⟨fun _ => default, made, rfl, rfl, by simp [empty], ?_, ?_⟩ <;>
  · intro a nullable child held
    simp [empty] at held

/-- Routing a name keeps a plan grown from its class. -/
theorem Grown.add : ∀ {fuel : Nat} {t : Ty} {plan : RowPlan} {index : Nat} {name : String} {plan' : RowPlan},
    Grown cat t plan → RowPlan.add cat fuel plan index name = .ok (some plan') → Grown cat t plan'
  | 0, _, _, _, _, _, _, added => by cases added
  | fuel + 1, t, plan, index, name, plan', ⟨targetOf, made, columns, nested, keys, held, children⟩, added => by
    rcases add_succ_eq_some added with ⟨c, -, rfl⟩ | ⟨pre, rest, n, child, child', -, -, found, chosen, inner, rfl⟩
    · exact ⟨targetOf, made, columns, nested, keys, held, children⟩
    have mem : n ∈ plan.nested := List.mem_of_find?_eq_some found
    have ownTarget : ∃ n' ∈ plan.nested, n'.attr = n.attr ∧ n'.nullable = n.nullable := ⟨n, mem, rfl, rfl⟩
    obtain ⟨targetOf', sameElsewhere, inNested, attrOf, grownChild⟩ : ∃ targetOf' : String → NestedTarget,
        (∀ a, a ≠ n.attr → targetOf' a = targetOf a) ∧ targetOf' n.attr ∈ plan.nested ∧
          (targetOf' n.attr).attr = n.attr ∧ Grown cat (targetOf' n.attr).target child := by
      unfold childFor at chosen
      cases existing : plan.children.lookup n.attr with
      | some entry =>
        rw [existing] at chosen
        cases chosen
        have first := held _ _ _ existing
        exact ⟨targetOf, fun _ _ => rfl, first.1, first.2.1, children _ _ _ existing⟩
      | none =>
        rw [existing] at chosen
        refine ⟨fun a => if a = n.attr then n else targetOf a, fun a other => if_neg other, ?_, ?_, ?_⟩ <;>
          simp only [↓reduceIte]
        · exact mem
        · exact Grown.new chosen
    refine ⟨targetOf', made, columns, nested, setKey_keys_nodup keys _ _, ?_, ?_⟩ <;>
    · intro a nullable c look
      by_cases same : a = n.attr
      · subst same
        rw [lookup_setKey_self] at look
        cases look
        first
          | exact ⟨inNested, attrOf, ownTarget⟩
          | exact Grown.add grownChild inner
      · rw [lookup_setKey_of_ne _ same] at look
        rw [sameElsewhere a same]
        first
          | exact held a _ _ look
          | exact children a _ _ look

/-- A class whose plan can be made, its nested targets held under distinct attributes. -/
def Plannable (cat : Catalog) (t : Ty) : Prop :=
  ∃ fresh, RowPlan.new cat t = .ok fresh ∧ (fresh.nested.map (·.attr)).Nodup

/-- The columns of a schema differ by name, case ignored. -/
theorem schema_lower_names_nodup {t : Ty} {s : TableSchema} (schema : cat.schemaOf t = .ok s) :
    (s.columns.map fun col => lower col.name).Nodup := by
  obtain ⟨c, built⟩ : ∃ c, cat.buildSchema c = .ok s := by
    unfold Catalog.schemaOf at schema
    split at schema
    · split at schema
      · exact ⟨_, schema⟩
      · cases schema
    · cases schema
  obtain ⟨parts, -, distinct, columns⟩ := Catalog.buildSchema_ok built
  have names := ((firstDuplicate_eq_none_iff [] _).1 distinct).1
  rw [List.map_map] at names
  rw [columns, withDefaultKey_lower_names]
  exact names

/-- Among items that differ by their image, the last of an image is the item of that image. -/
theorem getLast?_filter_image {α : Type} {f : α → String} {l : List α} (distinct : (l.map f).Nodup) {x : α}
    (mem : x ∈ l) : (l.filter fun y => f y == f x).getLast? = some x := by
  have kept : x ∈ l.filter fun y => f y == f x := List.mem_filter.2 ⟨mem, by simp⟩
  obtain ⟨y, last⟩ := Option.isSome_iff_exists.1 (List.getLast?_isSome.2 (List.ne_nil_of_mem kept))
  obtain ⟨inL, same⟩ := List.mem_filter.1 (List.mem_of_getLast? last)
  rw [last, List.inj_on_of_nodup_map distinct inL mem (by simpa using same)]

/-- A name that, case ignored, is that of a column of the plan's table is routed to that column. -/
theorem add_column {t : Ty} {s : TableSchema} {plan : RowPlan} (schema : cat.schemaOf t = .ok s)
    (grown : Grown cat t plan) {c : Column} (mem : c ∈ s.columns) {name : String} (named : lower name = lower c.name)
    (fuel index : Nat) :
    add cat (fuel + 1) plan index name = .ok (some { plan with assignments := plan.assignments ++ [(index, c)] }) := by
  obtain ⟨_, made, columns, -, -, -, -⟩ := grown
  obtain ⟨freshColumns, -⟩ := new_of_schema schema made
  apply add_succ_of_column
  rw [columns, freshColumns, named]
  exact getLast?_filter_image (schema_lower_names_nodup schema) mem

/-- A lowercased name `rel__rest`, its relation's name plain, splits after the relation's name. -/
theorem splitNested_sep {rel tail : String} (plain : plainName rel = true) :
    splitNested (rel ++ "__" ++ tail) = some (rel, tail) := by
  obtain ⟨unsplit, untrailed⟩ := plainName_iff.1 plain
  have sep : (rel ++ "__" ++ tail).toList = rel.toList ++ '_' :: '_' :: tail.toList := by
    simp only [String.toList_append, List.append_assoc]
    rfl
  simp [splitNested, sep, splitAtNested_plain_append unsplit untrailed]

/-- A name that no column of the plan's table takes and that starts, case ignored, with a
relation to one row of the table and `__` goes on into the nested plan of the relation, which
routes the rest. -/
theorem add_through {t tc : Ty} {s : TableSchema} {plan : RowPlan} (schema : cat.schemaOf t = .ok s)
    (plannable : Plannable cat t) (grown : Grown cat t plan) {r : Relation} (found : s.relation? r.name = some r)
    (single : r.toMany = false) (targeted : r.targetClass cat = .ok tc) (targetPlannable : Plannable cat tc)
    (plain : plainName (lower r.name) = true)
    {name tail : String} (named : lower name = lower r.name ++ "__" ++ tail)
    (unshadowed : ∀ col ∈ s.columns, lower col.name ≠ lower name) {fuel index : Nat} {P : RowPlan → Prop}
    (inner : ∀ child, Grown cat tc child → ∃ child', add cat fuel child index tail = .ok (some child') ∧ P child') :
    ∃ plan' child', add cat (fuel + 1) plan index name = .ok (some plan') ∧
      plan'.children.lookup r.name = some (r.nullable, child') ∧ P child' := by
  obtain ⟨fresh, made, distinct⟩ := plannable
  obtain ⟨targetOf, made', columns, nested, -, held, children⟩ := grown
  cases made.symm.trans made'
  obtain ⟨freshColumns, -⟩ := new_of_schema schema made
  obtain ⟨tc', targeted', relTarget⟩ := find?_nested_of_relation schema made found single
  cases targeted.symm.trans targeted'
  obtain ⟨child, chosen, grownChild⟩ : ∃ child,
      childFor cat plan ⟨lower r.name, r.name, tc, r.nullable⟩ = .ok child ∧ Grown cat tc child := by
    unfold childFor
    cases existing : plan.children.lookup r.name with
    | some entry =>
      obtain ⟨inNested, attrOf, -⟩ := held _ _ _ existing
      have relMem : (⟨lower r.name, r.name, tc, r.nullable⟩ : NestedTarget) ∈ plan.nested :=
        List.mem_of_find?_eq_some (nested ▸ relTarget)
      rw [nested] at inNested relMem
      have same := List.inj_on_of_nodup_map distinct inNested relMem attrOf
      have grownHeld := children _ _ _ existing
      rw [same] at grownHeld
      exact ⟨entry.2, rfl, grownHeld⟩
    | none =>
      obtain ⟨targetFresh, madeTarget, -⟩ := targetPlannable
      exact ⟨targetFresh, madeTarget, Grown.new madeTarget⟩
  obtain ⟨child', routed, holds⟩ := inner child grownChild
  have unmatched : (plan.columns.filter fun c => lower c.name == lower name).getLast? = none := by
    rw [List.getLast?_eq_none_iff, List.filter_eq_nil_iff]
    intro col mem same
    exact unshadowed col (by rw [← freshColumns, ← columns]; exact mem) (by simpa using same)
  refine ⟨_, child', add_succ_of_nested unmatched (by rw [named]; exact splitNested_sep plain)
    (by rw [nested]; exact relTarget) chosen routed, lookup_setKey_self _ _ _, holds⟩

end RowPlan

/-! ## Result names of the joins -/

namespace Join

/-- The relation names leading from a level of joins, through relations to one row only, to a
join of the tree: the join is a `LEFT JOIN` of the select, reached through those relations. -/
inductive ToOneAlong (cat : Catalog) : List Join → List String → Join → Prop
  | here {js : List Join} {j : Join} :
      j ∈ js → j.relation.isToOne cat = .ok true → ToOneAlong cat js [j.relation.name] j
  | under {js : List Join} {j k : Join} {path : List String} :
      j ∈ js → j.relation.isToOne cat = .ok true → ToOneAlong cat j.children path k →
        ToOneAlong cat js (j.relation.name :: path) k

/-- A join reached through relations to one row is reached along the names of those relations. -/
theorem toOneIn_iff_along {cat : Catalog} {js : List Join} {k : Join} :
    ToOneIn cat js k ↔ ∃ path, ToOneAlong cat js path k := by
  constructor
  · intro reached
    induction reached with
    | here mem single => exact ⟨_, .here mem single⟩
    | under mem single _ ih =>
      obtain ⟨path, along⟩ := ih
      exact ⟨_, .under mem single along⟩
  · rintro ⟨path, along⟩
    induction along with
    | here mem single => exact .here mem single
    | under mem single _ ih => exact .under mem single ih

theorem ToOneAlong.ne_nil {cat : Catalog} {js : List Join} {path : List String} {k : Join}
    (along : ToOneAlong cat js path k) : path ≠ [] := by
  cases along <;> simp

/-- The alias of a join reached along relation names is those names joined with `__`, below the
alias of the level's parent. -/
theorem ToOneAlong.aliasName_eq {cat : Catalog} {s : TableSchema} {parent : Option String} {js : List Join}
    (placed : Placed cat s parent js) {path : List String} {k : Join} (along : ToOneAlong cat js path k) :
    k.aliasName = childAlias parent ("__".intercalate path) := by
  induction along generalizing s parent with
  | here mem _ =>
    rw [String.intercalate_singleton]
    exact (placed.fits_of_mem mem).aliased
  | under mem _ deeper ih =>
    have fits := placed.fits_of_mem mem
    obtain ⟨first, rest, rfl⟩ := List.exists_cons_of_ne_nil deeper.ne_nil
    rw [ih fits.below, String.intercalate_cons_cons, fits.aliased]
    cases parent <;> simp [childAlias, String.append_assoc]

end Join

/-- What reading a join's result columns back needs of the join, below a table of schema `s`:
its relation has a name, which holds no `__` and does not end with `_` once lowercased, and lowercases
stably; no column of `s` is named like the columns read through it (`<relation>__...`, case
ignored); a relation to one row is typed with one instance; the plan of its target class can be
made; and the target's column names lowercase stably. -/
structure Join.ReadsBack (cat : Catalog) (s : TableSchema) (j : Join) : Prop where
  named : j.relation.name ≠ ""
  plain : plainName (lower j.relation.name) = true
  stable : lower (lower j.relation.name) = lower j.relation.name
  unshadowed : ∀ col ∈ s.columns, ∀ tail : String, lower col.name ≠ lower (j.relation.name ++ "__" ++ tail)
  single : j.relation.isToOne cat = .ok true → j.relation.toMany = false
  planned : ∀ tc, j.relation.targetClass cat = .ok tc → RowPlan.Plannable cat tc
  columnsStable : ∀ c ∈ j.target.columns, lower (lower c.name) = lower c.name

/-- Every join of a tree below a table of schema `s` reads back (`Join.ReadsBack`). -/
inductive Readable (cat : Catalog) : TableSchema → List Join → Prop
  | nil {s : TableSchema} : Readable cat s []
  | cons {s : TableSchema} {j : Join} {rest : List Join} (reads : j.ReadsBack cat s)
      (below : Readable cat j.target j.children) (tail : Readable cat s rest) : Readable cat s (j :: rest)

theorem Readable.of_mem {cat : Catalog} {s : TableSchema} {js : List Join} (readable : Readable cat s js)
    {j : Join} (mem : j ∈ js) : j.ReadsBack cat s ∧ Readable cat j.target j.children := by
  induction readable with
  | nil => cases mem
  | cons reads below _ _ ih =>
    rcases List.mem_cons.1 mem with rfl | later
    · exact ⟨reads, below⟩
    · exact ih later

/-- Lowercasing twice gives what lowercasing once does for names joined with `__` when it does
for each of them. -/
theorem lower_lower_intercalate :
    ∀ parts : List String, (∀ x ∈ parts, lower (lower x) = lower x) →
      lower (lower ("__".intercalate parts)) = lower ("__".intercalate parts)
  | [], _ => by decide
  | [x], stable => by simpa using stable x (by simp)
  | x :: y :: rest, stable => by
    rw [String.intercalate_cons_cons, lower_append_sep, lower_append_sep, stable x (by simp),
      lower_lower_intercalate (y :: rest) fun z mem => stable z (List.mem_cons_of_mem x mem)]

/-- Names joined with `__` are at least as long as they are many, less one. -/
theorem length_le_intercalate_append (x : String) :
    ∀ path : List String, path.length ≤ ("__".intercalate (path ++ [x])).length
  | [] => by simp
  | r :: path => by
    obtain ⟨first, rest, split⟩ := List.exists_cons_of_ne_nil (List.append_ne_nil_of_right_ne_nil path
      (List.cons_ne_nil x []))
    have later := length_le_intercalate_append x path
    rw [List.cons_append, split, String.intercalate_cons_cons, ← split]
    simp only [String.length_append, List.length_cons]
    have sep : "__".length = 2 := rfl
    omega

namespace Join

/-- The names along which a join is reached lowercase stably when the tree reads back. -/
theorem ToOneAlong.names_stable {cat : Catalog} {s : TableSchema} {js : List Join} {path : List String} {k : Join}
    (along : ToOneAlong cat js path k) (readable : Readable cat s js) : ∀ x ∈ path, lower (lower x) = lower x := by
  induction along generalizing s with
  | here mem _ =>
    intro x named
    rw [List.mem_singleton.1 named]
    exact (readable.of_mem mem).1.stable
  | under mem _ _ ih =>
    intro x named
    rcases List.mem_cons.1 named with rfl | later
    · exact (readable.of_mem mem).1.stable
    · exact ih (readable.of_mem mem).2 x later

/-- The columns of a join reached through relations to one row lowercase stably when the tree
reads back. -/
theorem ToOneAlong.columnsStable {cat : Catalog} {s : TableSchema} {js : List Join} {path : List String} {k : Join}
    (along : ToOneAlong cat js path k) (readable : Readable cat s js) :
    ∀ c ∈ k.target.columns, lower (lower c.name) = lower c.name := by
  induction along generalizing s with
  | here mem _ => exact (readable.of_mem mem).1.columnsStable
  | under mem _ _ ih => exact ih (readable.of_mem mem).2

end Join

namespace RowPlan

variable {cat : Catalog}

/-- The target class of a joined relation holds the schema of the join's table. -/
theorem targetClass_of_joinSchema {r : Relation} {target : TableSchema} (joined : r.joinSchema cat = .ok target) :
    ∃ tc, r.targetClass cat = .ok tc ∧ cat.schemaOf tc = .ok target :=
  ok_of_bind_ok joined

/-- The result name `alias__column` of a join reached through relations to one row is routed to
that column, in the nested plan reached through those relations' attributes, when the tree
reads back. -/
theorem add_along {s : TableSchema} {parent : Option String} {js : List Join} {path : List String} {k : Join}
    (along : Join.ToOneAlong cat js path k) (placed : Placed cat s parent js) (readable : Readable cat s js)
    {c : Column} (mem : c ∈ k.target.columns) {t : Ty} (schema : cat.schemaOf t = .ok s)
    (plannable : Plannable cat t) {fuel : Nat} (enough : path.length < fuel) {plan : RowPlan}
    (grown : Grown cat t plan) (index : Nat) {name : String}
    (named : lower name = lower ("__".intercalate (path ++ [c.name]))) :
    ∃ plan', add cat fuel plan index name = .ok (some plan') ∧ Routes plan' path c index := by
  induction along generalizing s parent t fuel plan name with
  | @here js j member single =>
    have fits := placed.fits_of_mem member
    have reads := (readable.of_mem member).1
    obtain ⟨tc, targeted, targetSchema⟩ := targetClass_of_joinSchema fits.target
    obtain ⟨f, rfl⟩ : ∃ f, fuel = f + 2 := ⟨fuel - 2, by simp at enough; omega⟩
    have split : lower name = lower j.relation.name ++ "__" ++ lower c.name := by
      rw [named, List.singleton_append, String.intercalate_cons_cons, String.intercalate_singleton,
        lower_append_sep]
    obtain ⟨plan', child', added, held, routed⟩ := add_through schema plannable grown fits.relation
      (reads.single single) targeted (reads.planned tc targeted) reads.plain split
      (fun col colMem same => reads.unshadowed col colMem c.name (by rw [same, named, List.singleton_append,
        String.intercalate_cons_cons, String.intercalate_singleton]))
      (P := fun child' => Routes child' [] c index) fun child grownChild =>
        ⟨_, add_column targetSchema grownChild mem (reads.columnsStable c mem) f index,
          .here (List.mem_append_right _ (List.mem_singleton_self _))⟩
    exact ⟨plan', added, .through held routed⟩
  | @under js j k path member single deeper ih =>
    have fits := placed.fits_of_mem member
    have ⟨reads, below⟩ := readable.of_mem member
    obtain ⟨tc, targeted, targetSchema⟩ := targetClass_of_joinSchema fits.target
    obtain ⟨f, rfl⟩ : ∃ f, fuel = f + 1 := ⟨fuel - 1, by simp at enough; omega⟩
    have rest : "__".intercalate ((j.relation.name :: path) ++ [c.name]) =
        j.relation.name ++ "__" ++ "__".intercalate (path ++ [c.name]) := by
      obtain ⟨first, more, split⟩ := List.exists_cons_of_ne_nil (List.append_ne_nil_of_right_ne_nil path
        (List.cons_ne_nil c.name []))
      rw [List.cons_append, split, String.intercalate_cons_cons]
    have stable : lower (lower ("__".intercalate (path ++ [c.name]))) = lower ("__".intercalate (path ++ [c.name])) :=
      lower_lower_intercalate _ fun x named => by
        rcases List.mem_append.1 named with onPath | isColumn
        · exact deeper.names_stable below x onPath
        · rw [List.mem_singleton.1 isColumn]
          exact deeper.columnsStable below c mem
    obtain ⟨plan', child', added, held, routed⟩ := add_through schema plannable grown fits.relation
      (reads.single single) targeted (reads.planned tc targeted) reads.plain
      (by rw [named, rest, lower_append_sep])
      (fun col colMem same => reads.unshadowed col colMem _ (by rw [same, named, rest]))
      (P := fun child' => Routes child' path c index) fun child grownChild =>
        ih fits.below below mem targetSchema (reads.planned tc targeted) (by simpa using enough) grownChild stable
    exact ⟨plan', added, .through held routed⟩

/-- A loop whose every step goes on from every state that keeps an invariant of the items done
so far, to a state that keeps it with one more item done, ends in a state that keeps it with
every item done. -/
theorem forIn_invariant {α β : Type} {body : α → β → Except Fault (ForInStep β)} (Inv : List α → β → Prop) :
    ∀ (L done : List α) (init : β),
      (∀ p ∈ L, ∀ done r, Inv done r → ∃ r', body p r = .ok (.yield r') ∧ Inv (done ++ [p]) r') →
      Inv done init → ∃ r, forIn L init body = .ok r ∧ Inv (done ++ L) r
  | [], done, init, _, holds => ⟨init, rfl, by simpa using holds⟩
  | p :: L, done, init, step, holds => by
    obtain ⟨r', stepped, holds'⟩ := step p List.mem_cons_self done init holds
    obtain ⟨r, ran, final⟩ := forIn_invariant Inv L (done ++ [p]) r'
      (fun q mem => step q (List.mem_cons_of_mem p mem)) holds'
    refine ⟨r, ?_, by simpa using final⟩
    rw [List.forIn_cons, stepped]
    exact ran

/-- Building the plan of class `t` for result names takes every name and routes it to each of its
destinations (`dest`), when from every plan grown from the class each name is taken to each of
them. -/
theorem build_routes {t : Ty} {fresh : RowPlan} (made : RowPlan.new cat t = .ok fresh) {names : List String}
    (dest : String → List String → Column → Prop) (taken : ∀ x ∈ names, ∃ path c, dest x path c)
    (routed : ∀ x ∈ names, ∀ path c, dest x path c → ∀ index plan, Grown cat t plan →
      ∃ plan', add cat (x.length + 1) plan index x = .ok (some plan') ∧ Routes plan' path c index) :
    ∃ plan, build cat t names = .ok plan ∧ Grown cat t plan ∧
      ∀ i x, names[i]? = some x → ∀ path c, dest x path c → Routes plan path c i := by
  let Inv : List (String × Nat) → RowPlan → Prop := fun done plan =>
    Grown cat t plan ∧ ∀ p ∈ done, ∀ path c, dest p.1 path c → Routes plan path c p.2
  unfold build
  rw [made]
  simp only [bind, Except.bind]
  refine (forIn_invariant Inv names.zipIdx [] fresh ?_ ⟨Grown.new made, by simp⟩).imp
    fun plan final => ⟨by rw [final.1]; rfl, final.2.1, fun i x found path c toward =>
      final.2.2 (x, i) (by simpa using List.mk_mem_zipIdx_iff_getElem?.2 found) path c toward⟩
  rintro ⟨x, i⟩ mem done r ⟨grown, routes⟩
  have named : x ∈ names := List.fst_mem_of_mem_zipIdx mem
  obtain ⟨path, c, toward⟩ := taken x named
  obtain ⟨plan', added, -⟩ := routed x named path c toward i r grown
  refine ⟨plan', by simp only [added]; rfl, grown.add added, ?_⟩
  intro q done' path' c' toward'
  rcases List.mem_append.1 done' with earlier | now
  · exact routes_of_add added (routes q earlier path' c' toward')
  · rw [List.mem_singleton.1 now] at toward' ⊢
    obtain ⟨plan'', added', routed'⟩ := routed x named path' c' toward' i r grown
    rw [added] at added'
    cases added'
    exact routed'

/-! ## A relation whose columns are all `NULL` -/

/-- Setting the values of entries one after another leaves a key none of them has as it was. -/
theorem lookup_foldl_setKey_of_not_mem {α : Type} (a : String) :
    ∀ (kids : List (String × α)) (acc : List (String × α)), a ∉ kids.map (·.1) →
      (kids.foldl (fun acc (kv : String × α) => setKey acc kv.1 kv.2) acc).lookup a = acc.lookup a
  | [], _, _ => rfl
  | (b, w) :: rest, acc, absent => by
    simp only [List.map_cons, List.mem_cons, not_or] at absent
    rw [List.foldl_cons, lookup_foldl_setKey_of_not_mem a rest _ absent.2, lookup_setKey_of_ne _ absent.1]

/-- Setting the values of entries of distinct keys one after another gives each key its entry's
value. -/
theorem lookup_foldl_setKey {α : Type} {a : String} {v : α} :
    ∀ (kids : List (String × α)) (acc : List (String × α)), (kids.map (·.1)).Nodup → (a, v) ∈ kids →
      (kids.foldl (fun acc (kv : String × α) => setKey acc kv.1 kv.2) acc).lookup a = some v
  | [], _, _, mem => by cases mem
  | (b, w) :: rest, acc, distinct, mem => by
    rw [List.map_cons, List.nodup_cons] at distinct
    rw [List.foldl_cons]
    rcases List.mem_cons.1 mem with same | later
    · cases same
      rw [lookup_foldl_setKey_of_not_mem a rest _ distinct.1, lookup_setKey_self]
    · exact lookup_foldl_setKey rest _ distinct.2 later

/-- The value a nested plan gives its attribute: `None` when the attribute allows it and every
result column the plan reads is `NULL`, else the instance of its class with the values it reads. -/
def childValue (cat : Catalog) (row : List Value) (nullable : Bool) (child : RowPlan) : Except Fault Value := do
  let cells ← if nullable then child.indexes.mapM (cell row) else pure []
  if nullable && cells.all Value.isNone then pure .none
  else return cat.constructWith child.cls (← valuesOf cat row child)

theorem childValues_cons (row : List Value) (a : String) (nullable : Bool) (child : RowPlan)
    (rest : List (String × Bool × RowPlan)) :
    childValues cat row ((a, nullable, child) :: rest) = (do
      let v ← childValue cat row nullable child
      let later ← childValues cat row rest
      pure ((a, v) :: later)) := by
  rw [childValues, childValue]
  cases nullable
  · simp only [Bool.false_eq_true, if_false, Bool.false_and, pure_bind, bind_assoc]
  · simp only [if_true, Bool.true_and, pure_bind, bind_assoc]
    refine bind_congr fun cells => ?_
    by_cases empty : cells.all Value.isNone = true
    · simp only [empty, if_true, pure_bind]
    · simp only [empty, Bool.false_eq_true, if_false, bind_assoc, pure_bind]

/-- A plan of an attribute that allows `None`, every result column of which is `NULL`, gives
`None`. -/
theorem childValue_all_none {row : List Value} {child : RowPlan}
    (empty : ∀ i ∈ child.indexes, row[i]? = some .none) : childValue cat row true child = .ok .none := by
  have cells : ∀ indexes : List Nat, (∀ i ∈ indexes, row[i]? = some .none) →
      indexes.mapM (cell row) = .ok (indexes.map fun _ => .none) := by
    intro indexes
    induction indexes with
    | nil => intro _; rfl
    | cons i more ih =>
      intro allNull
      have here : cell row i = .ok .none := by
        rw [cell, allNull i List.mem_cons_self]
        rfl
      rw [List.mapM_cons, here, ih fun j mem => allNull j (List.mem_cons_of_mem i mem)]
      rfl
  rw [childValue, if_pos rfl, cells _ empty]
  simp only [bind, Except.bind, Bool.true_and]
  rw [if_pos (by simp [Value.isNone])]
  rfl

/-- The values of nested plans come under the plans' attributes, and a plan of an attribute that
allows `None` gives `None` when every result column it reads is `NULL`. -/
theorem childValues_ok {row : List Value} :
    ∀ {children : List (String × Bool × RowPlan)} {kids : List (String × Value)},
      childValues cat row children = .ok kids →
        kids.map (·.1) = children.map (·.1) ∧
          ∀ a child, (a, true, child) ∈ children → (∀ i ∈ child.indexes, row[i]? = some .none) → (a, .none) ∈ kids
  | [], kids, read => by
    rw [childValues] at read
    cases read
    simp
  | (a, nullable, child) :: rest, kids, read => by
    rw [childValues_cons] at read
    obtain ⟨v, readValue, read⟩ := ok_of_bind_ok read
    obtain ⟨later, readRest, read⟩ := ok_of_bind_ok read
    cases read
    obtain ⟨keys, empties⟩ := childValues_ok readRest
    refine ⟨by simp [keys], fun b c mem empty => ?_⟩
    rcases List.mem_cons.1 mem with same | further
    · cases same
      rw [childValue_all_none empty] at readValue
      cases readValue
      exact List.mem_cons_self
    · exact List.mem_cons_of_mem _ (empties b c further empty)

/-- An entry a key finds is an entry of the list. -/
theorem mem_of_lookup {α : Type} {es : List (String × α)} {k : String} {x : α} (found : es.lookup k = some x) :
    (k, x) ∈ es := by
  obtain ⟨front, back, rfl, -⟩ := List.lookup_eq_some_iff.1 found
  simp

/-- A relation that allows `None`, every result column of whose nested plan is `NULL`, is read
as `None`. -/
theorem lookup_valuesOf_all_none {row : List Value} {plan : RowPlan} {vs : List (String × Value)}
    (read : valuesOf cat row plan = .ok vs) (keys : (plan.children.map (·.1)).Nodup) {a : String}
    {child : RowPlan} (held : plan.children.lookup a = some (true, child))
    (empty : ∀ i ∈ child.indexes, row[i]? = some .none) : vs.lookup a = some .none := by
  obtain ⟨cls, columns, nested, assignments, children⟩ := plan
  rw [valuesOf] at read
  obtain ⟨gathered, -, read⟩ := ok_of_bind_ok read
  obtain ⟨kids, readKids, read⟩ := ok_of_bind_ok read
  cases read
  obtain ⟨kidKeys, empties⟩ := childValues_ok readKids
  exact lookup_foldl_setKey kids _ (kidKeys ▸ keys) (empties a child (mem_of_lookup held) empty)

/-- The nested plan a plan holds along a path of attributes. -/
inductive Nests : RowPlan → List String → RowPlan → Prop
  | self {plan : RowPlan} : Nests plan [] plan
  | through {plan child inner : RowPlan} {a : String} {nullable : Bool} {path : List String} :
      plan.children.lookup a = some (nullable, child) → Nests child path inner → Nests plan (a :: path) inner

/-- The nested plan a grown plan holds for a relation of its table to one row is grown from the
relation's target class, under the relation's `None` rule. -/
theorem Grown.lookup_relation {t : Ty} {s : TableSchema} {plan : RowPlan} (grown : Grown cat t plan)
    (schema : cat.schemaOf t = .ok s) (plannable : Plannable cat t) {r : Relation}
    (found : s.relation? r.name = some r) (single : r.toMany = false) {nullable : Bool} {child : RowPlan}
    (held : plan.children.lookup r.name = some (nullable, child)) :
    ∃ tc, r.targetClass cat = .ok tc ∧ nullable = r.nullable ∧ Grown cat tc child := by
  obtain ⟨targetOf, made, -, nested, -, heldAll, children⟩ := grown
  obtain ⟨fresh, made', distinct⟩ := plannable
  rw [made] at made'
  cases made'
  obtain ⟨tc, targeted, first⟩ := find?_nested_of_relation schema made found single
  have relTarget := List.mem_of_find?_eq_some first
  obtain ⟨inNested, attrOf, n, nMem, nAttr, nNullable⟩ := heldAll _ _ _ held
  rw [nested] at inNested nMem
  have sameN := List.inj_on_of_nodup_map distinct nMem relTarget nAttr
  have sameTarget := List.inj_on_of_nodup_map distinct inNested relTarget attrOf
  refine ⟨tc, targeted, by rw [← nNullable, sameN], ?_⟩
  have grownChild := children _ _ _ held
  rwa [sameTarget] at grownChild

/-- The plan a grown plan nests for the relation of a join reached through relations to one row,
once a column of the join is routed, is held under the relation's name with the relation's
`None` rule, in a grown plan reached along the relations before it. -/
theorem nests_along {s : TableSchema} {parent : Option String} {js : List Join} {path : List String} {k : Join}
    (along : Join.ToOneAlong cat js path k) (placed : Placed cat s parent js) (readable : Readable cat s js)
    {t : Ty} (schema : cat.schemaOf t = .ok s) (plannable : Plannable cat t) {plan : RowPlan}
    (grown : Grown cat t plan) {c : Column} {i : Nat} (routes : Routes plan path c i) :
    ∃ up tu child, Nests plan path.dropLast up ∧ Grown cat tu up ∧
      up.children.lookup k.relation.name = some (k.relation.nullable, child) := by
  induction along generalizing s parent t plan with
  | @here js j member single =>
    have fits := placed.fits_of_mem member
    have reads := (readable.of_mem member).1
    cases routes with
    | through held _ =>
      obtain ⟨-, -, same, -⟩ := grown.lookup_relation schema plannable fits.relation (reads.single single) held
      exact ⟨plan, t, _, .self, grown, same ▸ held⟩
  | @under js j k path member single deeper ih =>
    have fits := placed.fits_of_mem member
    have ⟨reads, below⟩ := readable.of_mem member
    obtain ⟨tc, targeted, targetSchema⟩ := targetClass_of_joinSchema fits.target
    cases routes with
    | through held routed =>
      obtain ⟨tc', targeted', -, grownChild⟩ :=
        grown.lookup_relation schema plannable fits.relation (reads.single single) held
      rw [targeted] at targeted'
      cases targeted'
      obtain ⟨up, tu, child, nests, grownUp, look⟩ :=
        ih fits.below below targetSchema (reads.planned tc targeted) grownChild routed
      refine ⟨up, tu, child, ?_, grownUp, look⟩
      rw [List.dropLast_cons_of_ne_nil deeper.ne_nil]
      exact .through held nests

/-- Building the plan of the model class `t`, of table schema `s`, for result names each of which
is a column of the table or the name `alias__column` of a column of a join reached through
relations to one row, takes every name: a column's name is routed to that column, a join's
name to its column in the nested plan reached along the relations that lead to the join, and
the plan nesting that one holds it under the join's relation with the relation's `None` rule,
reading `None` for a relation that allows it when every column routed into it is `NULL`. -/
theorem build_routes_tree {t : Ty} {s : TableSchema} {js : List Join} (schema : cat.schemaOf t = .ok s)
    (plannable : Plannable cat t) (placed : Placed cat s none js) (readable : Readable cat s js)
    {names : List String}
    (selected : ∀ x ∈ names, (∃ col ∈ s.columns, x = col.name) ∨
      ∃ path k, Join.ToOneAlong cat js path k ∧ ∃ c ∈ k.target.columns, x = k.aliasName ++ "__" ++ c.name) :
    ∃ plan, build cat t names = .ok plan ∧
      (∀ i col, col ∈ s.columns → names[i]? = some col.name → Routes plan [] col i) ∧
      ∀ i path k, Join.ToOneAlong cat js path k → ∀ c ∈ k.target.columns,
        names[i]? = some (k.aliasName ++ "__" ++ c.name) → Routes plan path c i ∧
          ∃ up child, Nests plan path.dropLast up ∧
            up.children.lookup k.relation.name = some (k.relation.nullable, child) ∧
            ∀ row vs, valuesOf cat row up = .ok vs → k.relation.nullable = true →
              (∀ i ∈ child.indexes, row[i]? = some .none) → vs.lookup k.relation.name = some .none := by
  obtain ⟨fresh, made, -⟩ := id plannable
  let dest : String → List String → Column → Prop := fun x path c =>
    (path = [] ∧ c ∈ s.columns ∧ x = c.name) ∨
      ∃ k, Join.ToOneAlong cat js path k ∧ c ∈ k.target.columns ∧ x = k.aliasName ++ "__" ++ c.name
  have taken : ∀ x ∈ names, ∃ path c, dest x path c := by
    intro x mem
    rcases selected x mem with ⟨col, colMem, rfl⟩ | ⟨path, k, along, c, cMem, rfl⟩
    · exact ⟨[], col, .inl ⟨rfl, colMem, rfl⟩⟩
    · exact ⟨path, c, .inr ⟨k, along, cMem, rfl⟩⟩
  have routed : ∀ x ∈ names, ∀ path c, dest x path c → ∀ index plan, Grown cat t plan →
      ∃ plan', add cat (x.length + 1) plan index x = .ok (some plan') ∧ Routes plan' path c index := by
    rintro x - path c (⟨rfl, colMem, rfl⟩ | ⟨k, along, cMem, rfl⟩) index plan grown
    · exact ⟨_, add_column schema grown colMem rfl _ index,
        .here (List.mem_append_right _ (List.mem_singleton_self _))⟩
    · have joined : k.aliasName ++ "__" ++ c.name = "__".intercalate (path ++ [c.name]) := by
        rw [along.aliasName_eq placed, String.intercalate_append_of_ne_nil along.ne_nil (List.cons_ne_nil _ _),
          String.intercalate_singleton]
        rfl
      have long := length_le_intercalate_append c.name path
      rw [joined]
      exact add_along along placed readable cMem schema plannable (by omega) grown index rfl
  obtain ⟨plan, built, grown, routes⟩ := build_routes made dest taken routed
  refine ⟨plan, built, fun i col colMem found => routes i _ found [] col (.inl ⟨rfl, colMem, rfl⟩), ?_⟩
  intro i path k along c cMem found
  have routesK := routes i _ found path c (.inr ⟨k, along, cMem, rfl⟩)
  obtain ⟨up, tu, child, nests, grownUp, look⟩ := nests_along along placed readable schema plannable grown routesK
  refine ⟨routesK, up, child, nests, look, fun row vs read nullable empty => ?_⟩
  rw [nullable] at look
  obtain ⟨-, -, -, -, keys, -, -⟩ := grownUp
  exact lookup_valuesOf_all_none read keys look empty

end RowPlan

end SqlMapper
