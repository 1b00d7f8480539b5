import Mathlib.Data.List.Forall2
import SqlMapper.Fault

/-!
# Computations that can fail

Facts about `Except Fault` computations that the proofs share: a bind that
gives a value ran both of its halves, converting every item of a list
without a failure pairs each item with its converted form, and a loop whose
every step goes on runs as a fold. `FaultsIn P x` says that every fault `x`
can stop with satisfies `P`; it passes through binds, conversions of lists
and loops, so the faults of a whole computation follow from those of its
parts.
-/

set_option autoImplicit false

namespace SqlMapper

/-- The second half of a computation ran only if the first gave a value. -/
theorem ok_of_bind_ok {α β : Type} {x : Except Fault α} {g : α → Except Fault β} {b : β}
    (ran : (x >>= g) = .ok b) : ∃ a, x = .ok a ∧ g a = .ok b := by
  cases x with
  | error e => cases ran
  | ok a => exact ⟨a, rfl, ran⟩

/-- A conversion of every item that succeeds pairs each item with its converted form. -/
theorem forall₂_of_mapM_ok {α β : Type} {f : α → Except Fault β} :
    ∀ {xs : List α} {ys : List β}, xs.mapM f = .ok ys → List.Forall₂ (fun x y => f x = .ok y) xs ys
  | [], ys, converted => by
    cases converted
    exact .nil
  | x :: xs, ys, converted => by
    rw [List.mapM_cons] at converted
    cases first : f x with
    | error e =>
      rw [first] at converted
      cases converted
    | ok y =>
      cases rest : xs.mapM f with
      | error e =>
        rw [first, rest] at converted
        cases converted
      | ok zs =>
        rw [first, rest] at converted
        cases converted
        exact .cons first (forall₂_of_mapM_ok rest)

/-- Items paired one to one: the item at an index of the first list is paired
with the item at that index of the second. -/
theorem getElem?_of_forall₂ {α β : Type} {R : α → β → Prop} {xs : List α} {ys : List β}
    (related : List.Forall₂ R xs ys) {i : Nat} {x : α} (found : xs[i]? = some x) :
    ∃ y, ys[i]? = some y ∧ R x y := by
  induction related generalizing i with
  | nil => simp at found
  | cons first _ ih =>
    cases i with
    | zero =>
      simp only [List.getElem?_cons_zero, Option.some.injEq] at found
      exact ⟨_, rfl, found ▸ first⟩
    | succ i => exact ih found

/-- A loop whose body, from every state that keeps `P`, goes on to the state
`step` gives runs as the fold of `step`. -/
theorem forIn_eq_foldl {ε α β : Type} (P : β → Prop) (step : β → α → β) {body : α → β → Except ε (ForInStep β)}
    (keeps : ∀ b x, P b → P (step b x)) :
    ∀ (l : List α) (init : β), P init → (∀ x ∈ l, ∀ b, P b → body x b = .ok (.yield (step b x))) →
      forIn l init body = pure (l.foldl step init)
  | [], _, _, _ => rfl
  | x :: rest, init, holds, yields => by
    rw [List.forIn_cons, yields x List.mem_cons_self init holds]
    exact forIn_eq_foldl P step keeps rest _ (keeps init x holds) fun y member => yields y (List.mem_cons_of_mem _ member)

/-- Every fault a computation can stop with satisfies `P`. -/
def FaultsIn {α : Type} (P : Fault → Prop) (x : Except Fault α) : Prop :=
  ∀ f, x = .error f → P f

namespace FaultsIn

variable {α β : Type} {P Q : Fault → Prop}

theorem of_ok {x : Except Fault α} {a : α} (given : x = .ok a) : FaultsIn P x := by
  intro f failed
  rw [given] at failed
  cases failed

theorem pure (a : α) : FaultsIn P (Pure.pure a : Except Fault α) := of_ok rfl

theorem throw {f : Fault} (allowed : P f) : FaultsIn P (MonadExcept.throw f : Except Fault α) := by
  intro g failed
  cases failed
  exact allowed

theorem mono (weaker : ∀ f, P f → Q f) {x : Except Fault α} (within : FaultsIn P x) : FaultsIn Q x :=
  fun f failed => weaker f (within f failed)

/-- A bind stops with a fault of its first half, or of the second half run on
a value the first gave. -/
theorem bind {x : Except Fault α} {g : α → Except Fault β} (first : FaultsIn P x)
    (second : ∀ a, x = .ok a → FaultsIn P (g a)) : FaultsIn P (x >>= g) := by
  intro f failed
  cases given : x with
  | error e =>
    rw [given] at failed
    cases failed
    exact first _ given
  | ok a =>
    rw [given] at failed
    exact second a given f failed

/-- Converting every item of a list stops only with a fault of one item's conversion. -/
theorem mapM {g : α → Except Fault β} :
    ∀ {xs : List α}, (∀ x ∈ xs, FaultsIn P (g x)) → FaultsIn P (xs.mapM g)
  | [], _ => pure []
  | x :: xs, each => by
    rw [List.mapM_cons]
    refine bind (each x List.mem_cons_self) fun _ _ => bind (mapM fun y member => each y ?_) fun _ _ => pure _
    exact List.mem_cons_of_mem _ member

/-- Choosing and converting items of a list stops only with a fault of one item's conversion. -/
theorem filterMapM {g : α → Except Fault (Option β)} :
    ∀ {xs : List α}, (∀ x ∈ xs, FaultsIn P (g x)) → FaultsIn P (xs.filterMapM g)
  | [], _ => by
    rw [List.filterMapM_nil]
    exact pure []
  | x :: xs, each => by
    rw [List.filterMapM_cons]
    have rest : FaultsIn P (xs.filterMapM g) := filterMapM fun y member => each y (List.mem_cons_of_mem _ member)
    refine bind (each x List.mem_cons_self) fun chosen _ => ?_
    cases chosen with
    | none => exact rest
    | some b => exact bind rest fun _ _ => pure _

/-- A loop stops only with a fault of one of its steps. -/
theorem forIn {body : α → β → Except Fault (ForInStep β)} (steps : ∀ x b, FaultsIn P (body x b)) :
    ∀ (xs : List α) (init : β), FaultsIn P (ForIn.forIn xs init body)
  | [], init => pure init
  | x :: xs, init => by
    rw [List.forIn_cons]
    refine bind (steps x init) fun step _ => ?_
    cases step with
    | done b => exact pure b
    | yield b => exact forIn steps xs b

end FaultsIn

end SqlMapper
