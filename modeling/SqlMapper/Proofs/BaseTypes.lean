import Mathlib
import SqlMapper.Value.Annotation

/-!
# The base of an annotation

`Ty.baseType` removes an annotation's metadata, opens one union (`None` among
its members makes the base nullable, several other members give the base
`any`) and removes the metadata of the one member left. Over the annotations
built from classes, `Any`, `None`, unions, `Optional`, generic aliases and
metadata (`Ty.Built`):

* metadata never changes the base: `Annotated[X, m]` has the base of `X`;
* `Optional[X]` has the base and the arguments of `X` and is nullable, unless
  `X` is metadata around a union. The typing library keeps `Annotated[U, m]` as
  one member of the outer union, and the base is then the origin of `U`
  (`typing.Union` or `types.UnionType`), with the members of `U` as arguments;
* the base is a union origin exactly then: when a union's one member other than
  `None` is metadata around a union. A union of several members other than
  `None` has the base `any`, whether `None` is among them or not.

The proofs rest on the normal form that building keeps (`Ty.Normal`): the
members of a union are neither unions nor names written as strings, no two are
the same and there are at least two of them, and metadata stands around an
annotation that has none.
-/

set_option autoImplicit false

namespace SqlMapper

namespace Ty

/-! ## Members, normal forms and built annotations -/

/-- Whether an annotation stands in a union as itself: it is no union and no name written as a
string. -/
def isMember : Ty → Bool
  | .union _ | .pipe _ | .text _ => false
  | _ => true

/-- Whether an annotation is metadata around a union. -/
def annotatesUnion : Ty → Bool
  | .annotated t _ => ((stripTags t).1.unionArgs?).isSome
  | _ => false

/-- No item of a list is the same as an earlier one. -/
def Distinct (items : List Ty) : Prop :=
  items.Pairwise fun earlier later => (later == earlier) = false

/-- The normal form that building an annotation keeps. -/
inductive Normal : Ty → Prop
  | builtin (b : Builtin) : Normal (.builtin b)
  | any : Normal .any
  | cls (c : ClassRef) : Normal (.cls c)
  | generic (origin : Builtin) (args : List Ty) : Normal (.generic origin args)
  | tupleOf (elem : Ty) : Normal (.tupleOf elem)
  | union {members : List Ty} (normal : ∀ m ∈ members, Normal m) (stand : ∀ m ∈ members, m.isMember = true)
      (distinct : Distinct members) (several : 2 ≤ members.length) : Normal (.union members)
  | pipe {members : List Ty} (normal : ∀ m ∈ members, Normal m) (stand : ∀ m ∈ members, m.isMember = true)
      (distinct : Distinct members) (several : 2 ≤ members.length) : Normal (.pipe members)
  | annotated {inner : Ty} (tags : List Tag) (normal : Normal inner)
      (bare : ∀ t ts, inner ≠ .annotated t ts) : Normal (.annotated inner tags)

/-- The annotations built from classes, `Any`, `None`, unions written with `Union` or `|`,
generic aliases and metadata; `Optional` is a union with `None` (`Built.optional`). -/
inductive Built : Ty → Prop
  | builtin (b : Builtin) : Built (.builtin b)
  | any : Built .any
  | cls (c : ClassRef) : Built (.cls c)
  | union {args : List Ty} (each : ∀ t ∈ args, Built t) (nonempty : args ≠ []) : Built (mkUnion args)
  | pipe {args : List Ty} (each : ∀ t ∈ args, Built t) (nonempty : args ≠ []) : Built (mkPipe args)
  | generic (origin : Builtin) {args : List Ty} (each : ∀ t ∈ args, Built t) :
      Built (.generic origin args)
  | tupleOf {elem : Ty} (built : Built elem) : Built (.tupleOf elem)
  | annotated {t : Ty} (tags : List Tag) (built : Built t) : Built (mkAnnotated t tags)

theorem Built.optional {t : Ty} (built : Built t) : Built (mkOptional t) :=
  Built.union (by simpa using ⟨built, Built.builtin .noneType⟩) (List.cons_ne_nil _ _)

/-! ## `None` and lists without repeats -/

/-- Only `None` is the same as `None`. -/
@[simp] theorem beq_none_iff {t : Ty} : (t == none) = true ↔ t = none := by
  cases t with
  | builtin b =>
    show (b == Builtin.noneType) = true ↔ _
    rw [beq_iff_eq, none, builtin.injEq]
  | _ => exact iff_of_false Bool.false_ne_true (by rw [none]; exact Ty.noConfusion)

@[simp] theorem none_beq_iff {t : Ty} : (none == t) = true ↔ t = none := by
  cases t with
  | builtin b =>
    show (Builtin.noneType == b) = true ↔ _
    rw [beq_iff_eq, none, builtin.injEq, eq_comm]
  | _ => exact iff_of_false Bool.false_ne_true (by rw [none]; exact Ty.noConfusion)

@[simp] theorem bne_none_iff {t : Ty} : (t != none) = true ↔ t ≠ none := by
  rw [bne, Bool.not_eq_true', ← Bool.not_eq_true, beq_none_iff]

theorem contains_none_iff {items : List Ty} : items.contains none = true ↔ none ∈ items := by
  induction items with
  | nil => simp
  | cons t rest ih =>
    simp only [List.contains_cons, Bool.or_eq_true, ih, none_beq_iff, List.mem_cons]
    exact or_congr eq_comm Iff.rfl

theorem contains_eq_false_iff {items : List Ty} {t : Ty} :
    items.contains t = false ↔ ∀ a ∈ items, (t == a) = false := by
  induction items with
  | nil => simp
  | cons a rest ih => simp [List.contains_cons, ih]

/-- A step of `dedupe`: the last item is kept unless an earlier one is the same. -/
theorem dedupe_append_single (items : List Ty) (t : Ty) :
    dedupe (items ++ [t]) = if (dedupe items).contains t then dedupe items else dedupe items ++ [t] := by
  rw [dedupe, List.foldl_append]
  rfl

theorem mem_of_mem_dedupe {items : List Ty} {t : Ty} (kept : t ∈ dedupe items) : t ∈ items := by
  induction items using List.reverseRecOn with
  | nil => simp [dedupe] at kept
  | append_singleton items last ih =>
    rw [dedupe_append_single] at kept
    split at kept
    · exact List.mem_append_left _ (ih kept)
    · rcases List.mem_append.1 kept with earlier | isLast
      · exact List.mem_append_left _ (ih earlier)
      · exact List.mem_append_right _ isLast

theorem distinct_append_single {items : List Ty} {t : Ty} (distinct : Distinct items)
    (fresh : items.contains t = false) : Distinct (items ++ [t]) := by
  refine List.pairwise_append.2 ⟨distinct, List.pairwise_singleton _ _, fun a mem b isLast => ?_⟩
  rw [List.mem_singleton.1 isLast]
  exact contains_eq_false_iff.1 fresh a mem

theorem dedupe_distinct (items : List Ty) : Distinct (dedupe items) := by
  induction items using List.reverseRecOn with
  | nil => exact List.Pairwise.nil
  | append_singleton items last ih =>
    rw [dedupe_append_single]
    split
    · exact ih
    · exact distinct_append_single ih (by simpa using ‹¬(dedupe items).contains last = true›)

theorem dedupe_of_distinct {items : List Ty} (distinct : Distinct items) : dedupe items = items := by
  induction items using List.reverseRecOn with
  | nil => rfl
  | append_singleton items last ih =>
    obtain ⟨earlier, -, fresh⟩ := List.pairwise_append.1 distinct
    have notSeen : items.contains last = false :=
      contains_eq_false_iff.2 fun a mem => fresh a mem last (List.mem_singleton_self _)
    rw [dedupe_append_single, ih earlier, if_neg (by simp [notSeen])]

theorem dedupe_ne_nil {items : List Ty} (nonempty : items ≠ []) : dedupe items ≠ [] := by
  induction items using List.reverseRecOn with
  | nil => exact absurd rfl nonempty
  | append_singleton items last ih =>
    rw [dedupe_append_single]
    split
    · rename_i seen
      intro empty
      rw [empty] at seen
      simp at seen
    · simp

/-- A list with an item and without a repeat of it has at least two items when it is no single one. -/
theorem two_le_length {items : List Ty} (nonempty : items ≠ []) (notOne : ∀ t, items ≠ [t]) :
    2 ≤ items.length := by
  match items, nonempty, notOne with
  | [t], _, notOne => exact absurd rfl (notOne t)
  | _ :: _ :: _, _, _ => simp

/-! ## Members of unions -/

theorem unionMembers_cons_member {t : Ty} (member : t.isMember = true) (rest : List Ty) :
    unionMembers (t :: rest) = t :: unionMembers rest := by
  cases t <;> simp_all [isMember, unionMembers]

theorem unionMembers_of_members {items : List Ty} (members : ∀ m ∈ items, m.isMember = true) :
    unionMembers items = items := by
  induction items with
  | nil => simp [unionMembers]
  | cons t rest ih =>
    rw [unionMembers_cons_member (members t List.mem_cons_self),
      ih fun m mem => members m (List.mem_cons_of_mem _ mem)]

theorem pipeMembers_cons_member {t : Ty} (member : t.isMember = true) (rest : List Ty) :
    pipeMembers (t :: rest) = t :: pipeMembers rest := by
  cases t <;> simp_all [isMember, pipeMembers]

theorem pipeMembers_of_members {items : List Ty} (members : ∀ m ∈ items, m.isMember = true) :
    pipeMembers items = items := by
  induction items with
  | nil => simp [pipeMembers]
  | cons t rest ih =>
    rw [pipeMembers_cons_member (members t List.mem_cons_self),
      ih fun m mem => members m (List.mem_cons_of_mem _ mem)]

theorem Normal.ne_text {t : Ty} (normal : Normal t) (s : String) : t ≠ .text s := by
  cases normal <;> simp

/-- The members of a normal union are normal and stand in a union as themselves. -/
theorem Normal.unionArgs_members {t : Ty} (normal : Normal t) {members : List Ty}
    (union : t.unionArgs? = some members) : ∀ m ∈ members, Normal m ∧ m.isMember = true := by
  cases normal with
  | union normal stand | pipe normal stand =>
    simp only [unionArgs?, Option.some.injEq] at union
    exact union ▸ fun m mem => ⟨normal m mem, stand m mem⟩
  | _ => simp [unionArgs?] at union

theorem unionMembers_normal {items : List Ty} (normal : ∀ t ∈ items, Normal t) :
    ∀ m ∈ unionMembers items, Normal m ∧ m.isMember = true := by
  induction items with
  | nil => simp [unionMembers]
  | cons t rest ih =>
    have restNormal := ih fun u mem => normal u (List.mem_cons_of_mem _ mem)
    intro m mem
    -- a union among the items is opened into its members, which stand as themselves
    cases normal t List.mem_cons_self with
    | union inner stand | pipe inner stand =>
      simp only [unionMembers, unionMembers_of_members stand] at mem
      rcases List.mem_append.1 mem with opened | later
      · exact ⟨inner m opened, stand m opened⟩
      · exact restNormal m later
    | _ =>
      simp only [unionMembers, List.mem_cons] at mem
      rcases mem with rfl | later
      · exact ⟨normal _ List.mem_cons_self, rfl⟩
      · exact restNormal m later

theorem unionMembers_ne_nil {items : List Ty} (normal : ∀ t ∈ items, Normal t) (nonempty : items ≠ []) :
    unionMembers items ≠ [] := by
  obtain ⟨t, rest, rfl⟩ := List.exists_cons_of_ne_nil nonempty
  cases normal t List.mem_cons_self with
  | union _ stand _ several | pipe _ stand _ several =>
    simp only [unionMembers, unionMembers_of_members stand]
    exact List.append_ne_nil_of_left_ne_nil (List.ne_nil_of_length_pos (by omega)) _
  | _ => simp [unionMembers]

theorem pipeMembers_normal {items : List Ty}
    (normal : ∀ t ∈ items, Normal t ∧ t.formsPipe = true) :
    ∀ m ∈ pipeMembers items, Normal m ∧ m.isMember = true := by
  induction items with
  | nil => simp [pipeMembers]
  | cons t rest ih =>
    have restNormal := ih fun u mem => normal u (List.mem_cons_of_mem _ mem)
    intro m mem
    obtain ⟨headNormal, forms⟩ := normal t List.mem_cons_self
    -- a `|` union among the items is opened; every other item forms a `|` union as itself
    cases headNormal with
    | pipe inner stand =>
      simp only [pipeMembers, pipeMembers_of_members stand] at mem
      rcases List.mem_append.1 mem with opened | later
      · exact ⟨inner m opened, stand m opened⟩
      · exact restNormal m later
    | union | annotated => simp [formsPipe] at forms
    | builtin | any | cls | generic | tupleOf =>
      simp only [pipeMembers, List.mem_cons] at mem
      rcases mem with rfl | later
      · exact ⟨by constructor, rfl⟩
      · exact restNormal m later

theorem pipeMembers_ne_nil {items : List Ty} (normal : ∀ t ∈ items, Normal t) (nonempty : items ≠ []) :
    pipeMembers items ≠ [] := by
  obtain ⟨t, rest, rfl⟩ := List.exists_cons_of_ne_nil nonempty
  cases normal t List.mem_cons_self with
  | pipe _ stand _ several =>
    simp only [pipeMembers, pipeMembers_of_members stand]
    exact List.append_ne_nil_of_left_ne_nil (List.ne_nil_of_length_pos (by omega)) _
  | _ => simp [pipeMembers]

/-! ## Building keeps the normal form -/

/-- Distinct normal members, not a single one, form a normal union. -/
theorem Normal.of_members {items : List Ty} (each : ∀ m ∈ items, Normal m ∧ m.isMember = true)
    (nonempty : items ≠ []) :
    Normal (match dedupe items with | [t] => t | ts => .union ts) := by
  have kept : ∀ m ∈ dedupe items, Normal m ∧ m.isMember = true := fun m mem => each m (mem_of_mem_dedupe mem)
  split
  · rename_i t single
    exact (kept t (single ▸ List.mem_singleton_self t)).1
  · rename_i ts notSingle
    exact .union (fun m mem => (kept m mem).1) (fun m mem => (kept m mem).2) (dedupe_distinct items)
      (two_le_length (dedupe_ne_nil nonempty) notSingle)

theorem Normal.mkUnion {args : List Ty} (normal : ∀ t ∈ args, Normal t) (nonempty : args ≠ []) :
    Normal (Ty.mkUnion args) :=
  Normal.of_members (unionMembers_normal normal) (unionMembers_ne_nil normal nonempty)

theorem Normal.mkPipe {args : List Ty} (normal : ∀ t ∈ args, Normal t) (nonempty : args ≠ []) :
    Normal (Ty.mkPipe args) := by
  unfold Ty.mkPipe
  split
  · rename_i forms
    have each := pipeMembers_normal fun t mem => ⟨normal t mem, List.all_eq_true.1 forms t mem⟩
    have kept : ∀ m ∈ dedupe (pipeMembers args), Normal m ∧ m.isMember = true :=
      fun m mem => each m (mem_of_mem_dedupe mem)
    split
    · rename_i t single
      exact (kept t (single ▸ List.mem_singleton_self t)).1
    · rename_i ts notSingle
      exact .pipe (fun m mem => (kept m mem).1) (fun m mem => (kept m mem).2) (dedupe_distinct _)
        (two_le_length (dedupe_ne_nil (pipeMembers_ne_nil normal nonempty)) notSingle)
  · exact Normal.mkUnion normal nonempty

theorem Normal.mkAnnotated {t : Ty} (tags : List Tag) (normal : Normal t) :
    Normal (Ty.mkAnnotated t tags) := by
  cases normal with
  | annotated inner innerNormal bare => exact .annotated _ innerNormal bare
  | builtin | any | cls | generic | tupleOf | union | pipe =>
    exact .annotated tags (by constructor <;> assumption) (by simp)

theorem Built.normal {t : Ty} (built : Built t) : Normal t := by
  induction built with
  | builtin b => exact .builtin b
  | any => exact .any
  | cls c => exact .cls c
  | union _ nonempty ih => exact Normal.mkUnion ih nonempty
  | pipe _ nonempty ih => exact Normal.mkPipe ih nonempty
  | generic origin _ _ => exact .generic origin _
  | tupleOf _ _ => exact .tupleOf _
  | annotated tags _ ih => exact Normal.mkAnnotated tags ih

/-! ## The base, layer by layer -/

theorem baseType_of_unionArgs {t : Ty} {members : List Ty}
    (union : (stripTags t).1.unionArgs? = some members) : t.baseType = membersBase members := by
  simp [baseType, union]

theorem baseType_of_not_union {t : Ty} (plain : (stripTags t).1.unionArgs? = Option.none) :
    t.baseType = plainBase (stripTags t).1 false := by
  simp [baseType, plain]

theorem stripTags_of_bare {t : Ty} (bare : ∀ u us, t ≠ .annotated u us) : stripTags t = (t, []) := by
  cases t <;> simp_all [stripTags]

/-- Metadata removed from a normal annotation leaves a normal one without metadata. -/
theorem Normal.stripTags {t : Ty} (normal : Normal t) :
    Normal (Ty.stripTags t).1 ∧ ∀ u us, (Ty.stripTags t).1 ≠ .annotated u us := by
  cases normal with
  | annotated tags inner bare => simpa [Ty.stripTags, stripTags_of_bare bare] using ⟨inner, bare⟩
  | builtin | any | cls | generic | tupleOf | union | pipe =>
    exact ⟨by constructor <;> assumption, by simp [Ty.stripTags]⟩

theorem stripTags_mkAnnotated {t : Ty} (tags : List Tag) (named : ∀ s, t ≠ .text s) :
    (stripTags (mkAnnotated t tags)).1 = (stripTags t).1 := by
  cases t <;> simp_all [mkAnnotated, stripTags]

/-- Metadata around an annotation other than a name written as a string leaves its base as it is. -/
theorem baseType_mkAnnotated {t : Ty} (tags : List Tag) (named : ∀ s, t ≠ .text s) :
    (mkAnnotated t tags).baseType = t.baseType := by
  simp only [baseType, stripTags_mkAnnotated tags named]

theorem plainBase_nullable (t : Ty) (nullable : Bool) :
    plainBase t true = { plainBase t nullable with nullable := true } := by
  cases t <;> rfl

/-- Two unions with the same members other than `None`, the first with `None`, have the same
base, the first nullable. -/
theorem membersBase_of_filter {members others : List Ty}
    (same : members.filter (· != none) = others.filter (· != none)) (withNone : none ∈ members) :
    membersBase members = { membersBase others with nullable := true } := by
  have dropped : (members.filter (· != none)).length < members.length :=
    List.length_filter_lt_length_iff_exists.2 ⟨none, withNone, by simp⟩
  simp only [membersBase]
  rw [same] at dropped ⊢
  split
  · simp only [dropped, decide_true]
    exact plainBase_nullable _ _
  · simp [dropped]

/-- A union of several members other than `None` has the base `any` over them, nullable when
`None` is among its members. -/
theorem membersBase_of_several {members : List Ty} (several : 2 ≤ (members.filter (· != none)).length) :
    membersBase members = ⟨.any, (members.filter (· != none)).map .ty, members.contains none⟩ := by
  have nullable : (members.filter (· != none)).length < members.length ↔ members.contains none = true := by
    rw [List.length_filter_lt_length_iff_exists, contains_none_iff]
    simp
  simp only [membersBase]
  split
  · rename_i one single
    simp [single] at several
  · simp only [BaseType.mk.injEq, true_and]
    exact Bool.eq_iff_iff.2 (by simpa using nullable)

/-! ## `Optional` -/

/-- A union formed from members that come out as at least two distinct ones is a union of them. -/
theorem mkUnion_of_several {args : List Ty} (several : 2 ≤ (dedupe (unionMembers args)).length) :
    mkUnion args = .union (dedupe (unionMembers args)) := by
  unfold mkUnion
  split
  · rename_i one single
    simp [single] at several
  · rfl

/-- `Optional` of an annotation that stands in a union as itself is the union of it and `None`. -/
theorem mkOptional_of_member {t : Ty} (member : t.isMember = true) (notNone : t ≠ none) :
    mkOptional t = .union [t, none] := by
  have distinct : Distinct [t, none] :=
    List.pairwise_pair.2 (Bool.eq_false_iff.2 (mt none_beq_iff.1 notNone))
  have opened : dedupe (unionMembers [t, none]) = [t, none] := by
    rw [unionMembers_of_members (by simpa [none, isMember] using member), dedupe_of_distinct distinct]
  rw [mkOptional, mkUnion_of_several (by rw [opened]; simp), opened]

/-- `Optional` of a normal union adds `None` to its members, unless they have it. -/
theorem mkOptional_of_union {t : Ty} {members : List Ty} (normal : Normal t)
    (union : t.unionArgs? = some members) :
    mkOptional t = .union (if members.contains none then members else members ++ [none]) := by
  have stand := fun m mem => (normal.unionArgs_members union m mem).2
  have several : 2 ≤ members.length ∧ Distinct members := by
    cases normal <;> simp_all [unionArgs?]
  have opened : dedupe (unionMembers [t, none]) =
      if members.contains none then members else members ++ [none] := by
    have flat : unionMembers [t, none] = members ++ [none] := by
      cases normal <;> simp_all [unionArgs?, unionMembers, unionMembers_of_members stand, none]
    rw [flat, dedupe_append_single, dedupe_of_distinct several.2]
  have longEnough : 2 ≤ (dedupe (unionMembers [t, none])).length := by
    rw [opened]
    split
    · exact several.1
    · simp only [List.length_append, List.length_singleton]
      omega
  rw [mkOptional, mkUnion_of_several longEnough, opened]

/-- The union of an annotation and `None` has the annotation's base, without its metadata, and
is nullable. -/
theorem baseType_union_none {t : Ty} (notNone : t ≠ none) :
    (Ty.union [t, none]).baseType = plainBase (stripTags t).1 true := by
  have withoutNone : [t, none].filter (· != none) = [t] := by simp [notNone]
  rw [@baseType_of_unionArgs _ [t, none] rfl]
  simp only [membersBase, withoutNone, List.length_cons, List.length_nil]
  rfl

/-- `Optional[X]`, for `X` no `None` and no metadata around a union, has the base and arguments
of `X` and is nullable. -/
theorem baseType_mkOptional {t : Ty} (normal : Normal t) (notNone : t ≠ none)
    (plainMetadata : t.annotatesUnion = false) :
    (mkOptional t).baseType = { t.baseType with nullable := true } := by
  cases unionCase : t.unionArgs? with
  | some members =>
    -- a union: `None` joins its members
    have strip : (stripTags t).1 = t := by cases normal <;> simp_all [stripTags, unionArgs?]
    rw [mkOptional_of_union normal unionCase,
      @baseType_of_unionArgs _ (if members.contains none then members else members ++ [none]) rfl,
      baseType_of_unionArgs (strip ▸ unionCase)]
    apply membersBase_of_filter
    · split <;> simp
    · split
      · exact contains_none_iff.1 ‹_›
      · simp
  | none =>
    -- anything else stands in the union as itself, with the base it has alone
    have member : t.isMember = true := by cases normal <;> simp_all [unionArgs?, isMember]
    have plain : (stripTags t).1.unionArgs? = Option.none := by
      cases normal <;> simp_all [stripTags, unionArgs?, annotatesUnion]
    rw [mkOptional_of_member member notNone, baseType_of_not_union plain, baseType_union_none notNone]
    exact plainBase_nullable _ _

/-! ## Union origins -/

/-- Whether a base is the origin of a union, `typing.Union` or `types.UnionType`. -/
def IsUnionOrigin (t : Ty) : Prop := t = unionOrigin ∨ t = pipeOrigin

/-- A normal annotation without metadata that is no union has a base that is no union origin. -/
theorem plainBase_not_origin {t : Ty} (normal : Normal t) (bare : ∀ u us, t ≠ .annotated u us)
    (plain : t.unionArgs? = Option.none) (nullable : Bool) :
    ¬ IsUnionOrigin (plainBase t nullable).base := by
  cases normal with
  | union | pipe => simp [unionArgs?] at plain
  | annotated => exact absurd rfl (bare _ _)
  | _ => simp [IsUnionOrigin, plainBase, unionOrigin, pipeOrigin]

/-- The member that a union has besides `None` gives a union origin as base exactly when it is
metadata around a union. -/
theorem member_base_origin_iff {one : Ty} (normal : Normal one) (member : one.isMember = true)
    (nullable : Bool) :
    IsUnionOrigin (plainBase (stripTags one).1 nullable).base ↔ one.annotatesUnion = true := by
  cases normal with
  | union | pipe => simp [isMember] at member
  | @annotated inner tags innerNormal bare =>
    simp only [stripTags, stripTags_of_bare bare, annotatesUnion]
    cases unionCase : inner.unionArgs? with
    | none => simpa using plainBase_not_origin innerNormal bare unionCase nullable
    | some members =>
      -- metadata around a union: the base is the union's origin
      cases inner <;> simp_all [unionArgs?, plainBase, IsUnionOrigin]
  | _ => simpa [stripTags, annotatesUnion] using
      plainBase_not_origin (by constructor) (by simp) rfl nullable

end Ty

/-! ## Main statement -/

/-- The base of an annotation built from classes, `Any`, `None`, unions, `Optional`, generic
aliases and metadata: metadata around it leaves its base as it is; `Optional` of it, when it is
no `None` and no metadata around a union, has its base and arguments and is nullable; its base is
a union origin exactly when it is a union whose one member other than `None` is metadata around a
union; and a union of several members other than `None` has the base `any` over them, nullable
when `None` is among its members. -/
theorem base_type_composes {t : Ty} (built : t.Built) :
    (∀ tags, (t.mkAnnotated tags).baseType = t.baseType) ∧
      (t ≠ Ty.none → t.annotatesUnion = false →
        t.mkOptional.baseType = { t.baseType with nullable := true }) ∧
      (Ty.IsUnionOrigin t.baseType.base ↔ ∃ members one, (Ty.stripTags t).1.unionArgs? = some members ∧
        members.filter (· != Ty.none) = [one] ∧ one.annotatesUnion = true) ∧
      (∀ members, (Ty.stripTags t).1.unionArgs? = some members → 2 ≤ (members.filter (· != Ty.none)).length →
        t.baseType = ⟨.any, (members.filter (· != Ty.none)).map .ty, members.contains Ty.none⟩) := by
  have normal := built.normal
  refine ⟨fun tags => Ty.baseType_mkAnnotated tags normal.ne_text, Ty.baseType_mkOptional normal, ?_,
    fun members union several => (Ty.baseType_of_unionArgs union).trans (Ty.membersBase_of_several several)⟩
  obtain ⟨stripNormal, stripBare⟩ := normal.stripTags
  cases unionCase : (Ty.stripTags t).1.unionArgs? with
  | none =>
    rw [Ty.baseType_of_not_union unionCase]
    simpa using Ty.plainBase_not_origin stripNormal stripBare unionCase false
  | some members =>
    rw [Ty.baseType_of_unionArgs unionCase]
    have each := stripNormal.unionArgs_members unionCase
    simp only [Ty.membersBase, Option.some.injEq, exists_and_left, exists_eq_left']
    split
    · -- one member besides `None`: its own base decides
      rename_i one single
      have mem : one ∈ members := (List.mem_filter.1 (single ▸ List.mem_singleton_self one)).1
      rw [Ty.member_base_origin_iff (each one mem).1 (each one mem).2]
      simp [single]
    · -- several members, or none: the base is `any`
      rename_i notSingle
      simp only [Ty.IsUnionOrigin, Ty.unionOrigin, Ty.pipeOrigin, reduceCtorEq, or_self, false_iff]
      rintro ⟨one, single, -⟩
      exact notSingle one single

/-- `Optional[Annotated[list[int], m]]` has the base `list` over `int` and is nullable. -/
theorem optional_annotated_list_has_list_base :
    (Ty.mkAnnotated (.generic .list [.builtin .int]) [.note "m"]).Built ∧
      (Ty.mkOptional (Ty.mkAnnotated (.generic .list [.builtin .int]) [.note "m"])).baseType =
        ⟨.builtin .list, [.ty (.builtin .int)], true⟩ := by
  have built : (Ty.mkAnnotated (.generic .list [.builtin .int]) [.note "m"]).Built :=
    .annotated _ (.generic .list (by simpa using Ty.Built.builtin .int))
  refine ⟨built, ?_⟩
  rw [(base_type_composes built).2.1 (by simp [Ty.mkAnnotated, Ty.none]) rfl]
  cbv

/-- `Optional[Annotated[Union[int, str], m]]`: the annotated union alone has the base `any`, but
under `Optional` it stands as the one member besides `None` and gives the origin `typing.Union`. -/
theorem optional_annotated_union_has_union_origin :
    (Ty.mkAnnotated (Ty.mkUnion [.builtin .int, .builtin .str]) [.note "1"]).baseType =
        ⟨.any, [.ty (.builtin .int), .ty (.builtin .str)], false⟩ ∧
      (Ty.mkOptional (Ty.mkAnnotated (Ty.mkUnion [.builtin .int, .builtin .str]) [.note "1"])).baseType =
        ⟨Ty.unionOrigin, [.ty (.builtin .int), .ty (.builtin .str)], true⟩ := by
  constructor <;> cbv

end SqlMapper
