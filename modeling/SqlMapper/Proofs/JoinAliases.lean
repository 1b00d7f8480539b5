import Mathlib
import SqlMapper.Proofs.JoinTree
import SqlMapper.Rows.Plan

/-!
# Aliases of the join tree and the order of the `LEFT JOIN`s

A join's alias is the alias of the join it hangs from, `__` and its relation's
name (`author__publisher`), or the relation's name at the model's table. When
no relation name holds `__` or ends with `_` (`plainName`), the first `__` of
an alias is the one after its first relation's name, so an alias below one
relation is never at or below another (`AtOrBelow.name_eq`). Relations at one
level have distinct names, so the aliases of the whole tree are pairwise
distinct, and distinct from the model table's alias when that one holds no
`__` and names no relation.

The `LEFT JOIN`s are written in the order `Join.toOne` gives, each after the
join it hangs from, and each is joined `ON` its own alias and the alias of the
table it hangs from (`Join.write`). `Introduced` says that every such `ON`
refers only to aliases introduced before it, and that every join introduces a
new alias, so no joined relation is written twice.
-/

set_option autoImplicit false

namespace SqlMapper

open SqlMapper.Schema SqlMapper.Text

namespace RowPlan

/-- A character that does not start `__` stays in front of the part before the split. -/
theorem splitAtNested_cons {c : Char} {l : List Char} (apart : ¬(c = '_' ∧ l.head? = some '_')) :
    splitAtNested (c :: l) = (splitAtNested l).map fun (before, after) => (c :: before, after) := by
  rcases l with _ | ⟨d, rest⟩
  · simp [splitAtNested]
  · by_cases underscore : c = '_'
    · subst underscore
      have second : d ≠ '_' := by simpa using apart
      simp [splitAtNested, second]
    · simp [splitAtNested, underscore]

end RowPlan

/-- Whether a relation name reads back from the aliases below it: it holds no
`__` and does not end with `_`. -/
def plainName (name : String) : Bool :=
  (RowPlan.splitAtNested name.toList).isNone && name.toList.getLast? != some '_'

theorem plainName_iff {name : String} :
    plainName name = true ↔
      RowPlan.splitAtNested name.toList = none ∧ name.toList.getLast? ≠ some '_' := by
  simp [plainName]

/-- The first `__` after a plain name is the one that follows it. -/
theorem splitAtNested_plain_append {n : List Char} (unsplit : RowPlan.splitAtNested n = none)
    (untrailed : n.getLast? ≠ some '_') (rest : List Char) :
    RowPlan.splitAtNested (n ++ '_' :: '_' :: rest) = some (n, rest) := by
  induction n with
  | nil => rfl
  | cons c n ih =>
    cases n with
    | nil =>
      have last : c ≠ '_' := by simpa using untrailed
      simp [RowPlan.splitAtNested, last]
    | cons d n =>
      -- `c d` is no `__`: the name would split there
      have apart : ¬(c = '_' ∧ (d :: n).head? = some '_') := by
        rintro ⟨rfl, second⟩
        simp only [List.head?_cons, Option.some.injEq] at second
        subst second
        simp [RowPlan.splitAtNested] at unsplit
      rw [RowPlan.splitAtNested_cons apart, Option.map_eq_none_iff] at unsplit
      rw [List.cons_append, RowPlan.splitAtNested_cons (by simpa using apart),
        ih unsplit (by simpa using untrailed)]
      rfl

namespace Join

/-- The aliases of a join tree's tables, each join's before those below it. -/
def aliases (js : List Join) : List String := (flatten js).map (·.aliasName)

@[simp] theorem aliases_nil : aliases [] = [] := by
  simp [aliases]

@[simp] theorem aliases_cons (j : Join) (rest : List Join) :
    aliases (j :: rest) = j.aliasName :: (aliases j.children ++ aliases rest) := by
  simp [aliases]

theorem mem_flatten_of_mem {js : List Join} {j : Join} (member : j ∈ js) : j ∈ flatten js := by
  induction js with
  | nil => cases member
  | cons k rest ih =>
    rw [flatten_cons]
    rcases List.mem_cons.1 member with rfl | later
    · exact List.mem_cons_self
    · exact List.mem_cons_of_mem _ (List.mem_append_right _ (ih later))

/-- An alias at or below the join of relation `name` hanging from `parent`:
that join's alias, or that alias followed by `__` and more. -/
def AtOrBelow (parent : Option String) (name a : String) : Prop :=
  a = childAlias parent name ∨ ∃ more, a = childAlias parent name ++ "__" ++ more

theorem childAlias_toList (parent : Option String) (name : String) :
    (childAlias parent name).toList = (parent.map fun p => p.toList ++ ['_', '_']).getD [] ++ name.toList := by
  cases parent <;> simp [childAlias]

/-- Below the join aliased `x`, every alias is `x`, `__` and more. -/
theorem AtOrBelow.of_child {x name a : String} (at_ : AtOrBelow (some x) name a) :
    ∃ more, a = x ++ "__" ++ more := by
  simp only [AtOrBelow, childAlias, Option.map_some, Option.getD_some] at at_
  rcases at_ with rfl | ⟨more, rfl⟩
  · exact ⟨name, rfl⟩
  · exact ⟨name ++ "__" ++ more, by simp only [String.append_assoc]⟩

/-- An alias at or below a plain name is the parent's prefix followed by text
whose first name, read up to its first `__`, is that name. -/
theorem AtOrBelow.split {parent : Option String} {name a : String} (plain : plainName name = true)
    (at_ : AtOrBelow parent name a) :
    ∃ x, a.toList = (parent.map fun p => p.toList ++ ['_', '_']).getD [] ++ x ∧
      ((RowPlan.splitAtNested x).map Prod.fst).getD x = name.toList := by
  obtain ⟨unsplit, untrailed⟩ := plainName_iff.1 plain
  rcases at_ with rfl | ⟨more, rfl⟩
  · exact ⟨name.toList, childAlias_toList parent name, by rw [unsplit]; rfl⟩
  · refine ⟨name.toList ++ '_' :: '_' :: more.toList, ?_, ?_⟩
    · simp [childAlias_toList]
    · rw [splitAtNested_plain_append unsplit untrailed]
      rfl

/-- An alias is at or below one plain relation name of a level only. -/
theorem AtOrBelow.name_eq {parent : Option String} {n m a : String} (plainN : plainName n = true)
    (plainM : plainName m = true) (atN : AtOrBelow parent n a) (atM : AtOrBelow parent m a) : n = m := by
  obtain ⟨x, ax, nx⟩ := atN.split plainN
  obtain ⟨y, ay, my⟩ := atM.split plainM
  have same : x = y := List.append_cancel_left (ax.symm.trans ay)
  rw [← String.toList_inj, ← nx, ← my, same]

theorem AtOrBelow.self {parent : Option String} {j : Join} (aliased : j.aliasName = childAlias parent j.relation.name) :
    AtOrBelow parent j.relation.name j.aliasName :=
  .inl aliased

theorem ne_append_sep (x more : String) : x ≠ x ++ "__" ++ more := by
  intro same
  have lengths := congrArg String.length same
  simp only [String.length_append] at lengths
  have : "__".length = 2 := rfl
  omega

/-- The `LEFT JOIN`s in the order written, each joined on an alias introduced
before it (`seen` holds those of the tables before) and introducing an alias
none before it has. -/
inductive Introduced : List String → List Join → Prop
  | nil {seen : List String} : Introduced seen []
  | cons {seen : List String} {j : Join} {rest : List Join} :
      j.baseAlias ∈ seen → j.aliasName ∉ seen → Introduced (j.aliasName :: seen) rest →
      Introduced seen (j :: rest)

theorem Introduced.append {seen : List String} {xs ys : List Join} (first : Introduced seen xs)
    (second : Introduced ((xs.map (·.aliasName)).reverse ++ seen) ys) : Introduced seen (xs ++ ys) := by
  induction first with
  | nil => simpa using second
  | cons based fresh _ ih =>
    exact .cons based fresh (ih (by simpa using second))

end Join

namespace Placed

variable {cat : Catalog} {s : TableSchema} {parent : Option String} {js : List Join}

/-- Every alias of a placed level is at or below one of its joins. -/
theorem atOrBelow_of_mem (placed : Placed cat s parent js) {a : String} (member : a ∈ Join.aliases js) :
    ∃ k ∈ js, Join.AtOrBelow parent k.relation.name a := by
  induction placed with
  | nil => simp at member
  | @cons s parent j rest _ _ aliased _ below _ _ belowIh tailIh =>
    rw [Join.aliases_cons] at member
    rcases List.mem_cons.1 member with rfl | member
    · exact ⟨j, List.mem_cons_self, .self aliased⟩
    rcases List.mem_append.1 member with inBelow | inRest
    · -- an alias below `j` is `j`'s alias, `__` and more
      obtain ⟨k, -, at_⟩ := belowIh inBelow
      obtain ⟨more, rfl⟩ := at_.of_child
      exact ⟨j, List.mem_cons_self, .inr ⟨more, by rw [aliased]⟩⟩
    · obtain ⟨k, member, at_⟩ := tailIh inRest
      exact ⟨k, List.mem_cons_of_mem _ member, at_⟩

/-- With plain relation names, the aliases of a placed tree are pairwise distinct. -/
theorem aliases_nodup (placed : Placed cat s parent js)
    (plain : ∀ j ∈ Join.flatten js, plainName j.relation.name = true) : (Join.aliases js).Nodup := by
  induction placed with
  | nil => simp
  | @cons s parent j rest _ _ aliased _ below fresh tail belowIh tailIh =>
    simp only [Join.flatten_cons, List.mem_cons, List.mem_append] at plain
    have plainJ := plain j (.inl (.inl rfl))
    have plainRest : ∀ k ∈ rest, plainName k.relation.name = true :=
      fun k member => plain k (.inr (Join.mem_flatten_of_mem member))
    -- an alias of a later join is at or below a relation named apart from `j`'s
    have elsewhere : ∀ b ∈ Join.aliases rest, ¬Join.AtOrBelow parent j.relation.name b := by
      intro b member at_
      obtain ⟨k, later, atK⟩ := tail.atOrBelow_of_mem member
      exact fresh k later (atK.name_eq (plainRest k later) plainJ at_)
    rw [Join.aliases_cons, List.nodup_cons, List.nodup_append]
    refine ⟨?_, belowIh fun k member => plain k (.inl (.inr member)),
      tailIh fun k member => plain k (.inr member), ?_⟩
    · intro member
      rcases List.mem_append.1 member with inBelow | inRest
      · obtain ⟨k, -, at_⟩ := below.atOrBelow_of_mem inBelow
        obtain ⟨more, same⟩ := at_.of_child
        exact Join.ne_append_sep _ _ same
      · exact elsewhere _ inRest (.self aliased)
    · intro a inBelow b inRest same
      subst same
      obtain ⟨k, -, at_⟩ := below.atOrBelow_of_mem inBelow
      obtain ⟨more, rfl⟩ := at_.of_child
      exact elsewhere _ inRest (.inr ⟨more, by rw [aliased]⟩)

/-- The model table's alias is none of the joins' when it holds no `__` and
names no relation joined at the table. -/
theorem base_not_mem (placed : Placed cat s none js)
    (plain : ∀ j ∈ Join.flatten js, plainName j.relation.name = true)
    (baseUnsplit : RowPlan.splitNested s.aliasName = none) (baseApart : ∀ j ∈ js, j.relation.name ≠ s.aliasName) :
    s.aliasName ∉ Join.aliases js := by
  intro member
  obtain ⟨k, top, at_⟩ := placed.atOrBelow_of_mem member
  rcases at_ with same | ⟨more, same⟩
  · exact baseApart k top same.symm
  · -- an alias below a join holds `__`, the table's does not
    obtain ⟨unsplit, untrailed⟩ := plainName_iff.1 (plain k (Join.mem_flatten_of_mem top))
    simp only [RowPlan.splitNested, Option.map_eq_none_iff, same, Join.childAlias, Option.map_none,
      Option.getD_none, String.toList_append, List.append_assoc] at baseUnsplit
    rw [show "__".toList ++ more.toList = '_' :: '_' :: more.toList from rfl,
      splitAtNested_plain_append unsplit untrailed] at baseUnsplit
    cases baseUnsplit

/-- The `LEFT JOIN`s of a placed level, written after tables whose aliases are
`seen` (the one this level hangs from among them, none of this level's), each
join on an alias introduced before it and introduce new aliases. -/
theorem introduced_toOne (placed : Placed cat s parent js) (nodup : (Join.aliases js).Nodup)
    {ones : List Join} (written : Join.toOne cat js = .ok ones) {seen : List String}
    (hangs : parent.getD s.aliasName ∈ seen) (apart : ∀ a ∈ Join.aliases js, a ∉ seen) :
    Join.Introduced seen ones := by
  induction placed generalizing ones seen with
  | nil =>
    rw [Join.toOne_nil] at written
    cases written
    exact .nil
  | @cons s parent j rest _ _ _ based below _ tail belowIh tailIh =>
    obtain ⟨belowOnes, after, single, belowOk, afterOk, -, rfl⟩ := Join.toOne_cons_eq written
    rw [Join.aliases_cons, List.nodup_cons, List.nodup_append] at nodup
    obtain ⟨jFresh, belowNodup, restNodup, disjoint⟩ := nodup
    have restApart : ∀ a ∈ Join.aliases rest, a ∉ seen :=
      fun a member => apart a (by simp [member])
    cases single with
    | false => exact tailIh restNodup afterOk hangs restApart
    | true =>
      refine .cons (based ▸ hangs) (apart _ (by simp)) (Join.Introduced.append ?_ ?_)
      · -- the joins below `j` hang from `j`, introduced just before them
        refine belowIh belowNodup belowOk List.mem_cons_self fun a member => ?_
        rintro (_ | ⟨_, seenBefore⟩)
        · exact jFresh (List.mem_append_left _ member)
        · exact apart a (by simp [member]) seenBefore
      · -- the later joins of this level hang from the same table as `j`
        refine tailIh restNodup afterOk (by simp [hangs]) fun a member => ?_
        simp only [List.mem_append, List.mem_reverse, List.mem_cons, not_or]
        refine ⟨fun written => ?_, fun same => jFresh (List.mem_append_right _ (same ▸ member)), restApart a member⟩
        have inBelow : a ∈ Join.aliases j.children :=
          ((Join.toOne_sublist belowOk).map (·.aliasName)).subset written
        exact disjoint a inBelow a member rfl

end Placed

/-! ## A book with an author -/

/-- The class `Author`, a table with no columns, in a catalog of its own. -/
def authorRef : ClassRef := ⟨0, "Author", .table⟩

def authorCatalog : Catalog := ⟨#[⟨authorRef, .model ⟨some "authors", some "author", none, [], []⟩⟩]⟩

def authorTable : TableSchema :=
  { cls := authorRef, name := "authors", aliasName := "author", columns := [], relations := [] }

/-- A relation `author` of a `Book` to one `Author`, through `author_id`. -/
def authorRelation : Relation :=
  { name := "author", owner := ⟨1, "Book", .table⟩, target := .cls authorRef, toMany := false, nullable := true,
    declaredKind := none, join := [("author_id", "id")], junction := none, order := none, filter := none }

def bookTable : TableSchema :=
  { cls := ⟨1, "Book", .table⟩, name := "books", aliasName := "book", columns := [], relations := [authorRelation] }

def authorJoin : Join :=
  { relation := authorRelation, target := authorTable, aliasName := "author", baseAlias := "book" }

theorem authorRelation_joinSchema : authorRelation.joinSchema authorCatalog = .ok authorTable := by
  have fields : authorCatalog.fields 0 = [] := by
    simp [Catalog.fields, Catalog.model?, Catalog.get?, authorCatalog]
  simp [Relation.joinSchema, Relation.targetClass, authorRelation, Catalog.schemaOf, Catalog.buildSchema,
    Catalog.fieldParts, fields, authorRef]
  rfl

end SqlMapper
