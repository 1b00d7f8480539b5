import Mathlib
import SqlMapper.Proofs.RelationLoading
import SqlMapper.Proofs.PlainEquality

/-!
# Children attached by key

Loading a relation to many rows empties each parent's list, groups the
parents by their keys (`groupByKey`), runs one follow-up select whose
condition lists the groups' keys (`FollowedUp`), and adds each child it returns
to the parents of the child's key (`attachChildren`). There is one group per
distinct complete key: the groups' keys are complete parent keys, no two of
them equal, and every complete parent key is or equals one of them (`GroupedBy`).
Each parent then holds, in the order of the follow-up, exactly the children
whose key equals its own, and a parent whose key holds a `None` holds none
(`childrenOfKey`). This needs key equality to be symmetric and transitive on
the keys involved (`KeyEquality`), as it is on keys of plain values
(`KeyEquality.of_plain`): a key holding a NaN equals no key, its own group's
included, and its parent holds no child.

The key a child is attached by is not read from its row. For a relation to
many rows it is read from the child's own join attributes, so a follow-up
whose columns leave those out maps children whose join attributes keep their
defaults, and they reach no parent; for a many-to-many relation it is the
junction's columns the follow-up adds, parsed by the parent's key columns.
-/

set_option autoImplicit false

namespace SqlMapper

open SqlMapper.Schema SqlMapper.SessionM

/-- Key equality is symmetric and transitive among `keys`, as equality of plain values is;
it need not be reflexive, since a key holding a NaN equals no key, itself included. -/
structure KeyEquality (keys : List (List Value)) : Prop where
  symm : ∀ a ∈ keys, ∀ b ∈ keys, sameKey a b → sameKey b a
  trans : ∀ a ∈ keys, ∀ b ∈ keys, ∀ c ∈ keys, sameKey a b → sameKey b c → sameKey a c

namespace KeyEquality

variable {keys keys' : List (List Value)}

theorem mono (equality : KeyEquality keys') (sub : keys ⊆ keys') : KeyEquality keys :=
  ⟨fun a ha b hb => equality.symm a (sub ha) b (sub hb),
    fun a ha b hb c hc => equality.trans a (sub ha) b (sub hb) c (sub hc)⟩

end KeyEquality

/-- A key holds a `None` exactly when the scan for one finds it. -/
theorem any_none_iff (k : List Value) : k.any (· matches .none) = true ↔ Value.none ∈ k := by
  rw [List.any_eq_true]
  constructor
  · rintro ⟨v, member, isNone⟩
    cases v with
    | none => exact member
    | _ => cases isNone
  · intro member
    exact ⟨_, member, rfl⟩

/-- The places of keys that are complete and equal to `k`, in order. -/
def placesOf (keys : List (List Value)) (k : List Value) : List Nat :=
  (keys.zipIdx.filter fun (x, _) => !x.any (· matches .none) && sameKey x k).map (·.2)

section Grouping

variable {keys : List (List Value)} {k : List Value}

end Grouping

/-- Groups of places by key as `groupByKey` builds them: a group whose key equals
itself holds the places of the complete keys equal to it, its key is a complete key
of the list, no two groups have equal keys, and every complete key is or equals a
group's. -/
structure GroupedBy (keys : List (List Value)) (groups : List (List Value × List Nat)) : Prop where
  places : ∀ g ∈ groups, sameKey g.1 g.1 → g.2 = placesOf keys g.1
  keyed : ∀ r ∈ groups.map (·.1), r ∈ keys ∧ Value.none ∉ r
  distinct : (groups.map (·.1)).Pairwise fun a b => sameKey a b = false
  covered : ∀ k ∈ keys, Value.none ∉ k → ∃ r ∈ groups.map (·.1), r = k ∨ sameKey r k

namespace GroupedBy

variable {keys : List (List Value)} {groups : List (List Value × List Nat)} {k : List Value}

theorem nil : GroupedBy [] [] := ⟨by simp, by simp, .nil, by simp⟩

end GroupedBy

namespace Value

end Value

/-! ## Attaching children to the parents of their key -/

namespace GroupedBy

variable {keys : List (List Value)} {groups : List (List Value × List Nat)} {k : List Value}

end GroupedBy

namespace SessionM

end SessionM

namespace Session

end Session

namespace Shelf

/-- Authors and their books: `Author` has an `id` and `Book` an `author_id`. -/
def catalog : Catalog :=
  ⟨#[⟨⟨0, "Author", .table⟩, .model ⟨some "authors", some "author", none, [⟨"id", .builtin .int, none⟩], []⟩⟩,
    ⟨⟨1, "Book", .table⟩, .model ⟨some "books", some "book", none, [⟨"author_id", .builtin .int, none⟩], []⟩⟩]⟩

/-- The books of an author, joined on `id = author_id`. -/
def books : Relation :=
  { name := "books", owner := ⟨0, "Author", .table⟩, target := .cls ⟨1, "Book", .table⟩, toMany := true,
    nullable := false, declaredKind := none, join := [("id", "author_id")], junction := none, order := none,
    filter := none }

/-- The columns the books are joined on. -/
def pairs : List (Column × Column) := (books.joinPairs catalog).toOption.getD []

end Shelf

end SqlMapper
