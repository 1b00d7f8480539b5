import Mathlib
import SqlMapper.Proofs.BaseTypes
import SqlMapper.Proofs.Except
import SqlMapper.Schema.ColumnValue

/-!
# Columns of embedded structures

A stored field gives one column, or, declared as an embedded structure, the columns of the
structure's fields, each named with the field's name and `__` in front, at every depth. The
expansion is bounded by the number of declared classes; it gives the full embedding tree when no
structure reachable by embedding embeds itself again, since a deeper tree would pass through more
classes than are declared.

The tree is stated on its own (`Site.Leaves`): the leaves below a site in declaration order, each
given by the chain of embedded fields above it. The column of a leaf is named by the levels of its
chain joined with `__`, reaches its value through the chain's attribute names, and may hold `None`
exactly when some level's annotation admits `None`: an `Optional` annotation, a union with `None`,
or `Any`.

Of a whole schema: column names differ when case is ignored, a repeated one being a configuration
fault, and without a declared key the top-level columns named `id` become the key, generated when
declared so or when they hold integers.
-/

set_option autoImplicit false

namespace SqlMapper

open SqlMapper.Schema SqlMapper.Text

/-! ## Sites -/

/-- Where `Catalog.fieldColumns` reads a field: its name and attribute path, its annotation and
metadata, its default, the prefix of its column names and whether an enclosing field may be
`None`. -/
structure Site where
  name : String
  path : List String
  ann : Ty
  tags : List Tag
  default : Value
  pre : String
  parentNullable : Bool

namespace Site

variable (s : Site)

/-- The annotation without its metadata. -/
def bare : Ty := (Ty.stripTags s.ann).1

/-- The column declaration, from the metadata given and the annotation's own. -/
def tag : ColumnSpec := columnTagOf (s.tags ++ (Ty.stripTags s.ann).2)

/-- The base of the annotation. -/
def base : BaseType := s.bare.baseType

def nullable : Bool := s.base.nullable || s.parentNullable

/-- The declared name, else the field's, after the prefix. -/
def columnName : String := s.pre ++ (s.tag.name.filter (!·.isEmpty)).getD s.name

/-- The one column of a site that embeds nothing. -/
def leaf : Column :=
  { name := s.columnName, path := s.path, ann := s.bare, base := s.base.base, nullable := s.nullable,
    default := s.default, pk := s.tag.pk, autoincrement := s.tag.autoincrement,
    softDelete := s.tag.softDelete, isJson := s.tag.json || s.base.base.isJsonBase, unique := s.tag.unique,
    nullzero := s.tag.nullzero, sqlType := s.tag.sqlType }

/-- The site embeds the structure `c`: it is declared embedded and its base is that structure. -/
def Embeds (c : ClassRef) : Prop := s.tag.embed = true ∧ s.base.base = .cls c ∧ c.sort = .struct

/-- The columns of a site, `fuel` levels deep. -/
def columns (cat : Catalog) (fuel : Nat) : Except Fault (List Column) :=
  cat.fieldColumns fuel s.name s.path s.ann s.tags s.default s.pre s.parentNullable

end Site

/-- A field's site below an attribute path, after a prefix, inside a field that may be `None` or
not. -/
def Field.site (f : Field) (path : List String) (pre : String) (parentNullable : Bool) : Site :=
  ⟨snakeCase f.name, path ++ [f.name], (Ty.stripTags f.ann).1, (Ty.stripTags f.ann).2, f.default.getD .none,
    pre, parentNullable⟩

/-- The site of a field of an embedded structure. -/
def Site.sub (s : Site) (f : Field) : Site := f.site s.path (s.columnName ++ "__") s.nullable

/-- The site of a field of an entity class. -/
def Field.top (f : Field) : Site := f.site [] "" false

/-- The column of the leaf reached through a chain of embedded fields. -/
def Site.leafColumn : Site → List Field → Column
  | s, [] => s.leaf
  | s, f :: rest => (s.sub f).leafColumn rest

/-! ## A field's own level -/

namespace Field

variable (f : Field)

/-- The column declaration of a field, from its metadata. -/
def tag : ColumnSpec := columnTagOf (Ty.stripTags f.ann).2

/-- The name a field gives its level of a column name: the declared one, else its own in snake
case. -/
def levelName : String := (f.tag.name.filter (!·.isEmpty)).getD (snakeCase f.name)

/-- Whether a field's annotation admits `None`, by its base. -/
def admitsNone : Bool := f.ann.baseType.nullable

/-- The field is an embedded field of the structure `c`. -/
def Embeds (c : ClassRef) : Prop := f.tag.embed = true ∧ f.ann.baseType.base = .cls c ∧ c.sort = .struct

end Field

namespace Ty

/-- Metadata is removed at once: what remains carries none. -/
@[simp]
theorem stripTags_stripTags (t : Ty) : stripTags (stripTags t).1 = ((stripTags t).1, []) := by
  fun_induction stripTags t with
  | case1 => simp_all
  | case2 t bare => simp [stripTags_of_bare bare]

theorem baseType_stripTags (t : Ty) : (stripTags t).1.baseType = t.baseType := by
  simp only [baseType, stripTags_stripTags]

end Ty

namespace Field

variable (f : Field) (path : List String) (pre : String) (parentNullable : Bool)

@[simp]
theorem site_tag : (f.site path pre parentNullable).tag = f.tag := by
  simp [Site.tag, site, tag]

@[simp]
theorem site_base : (f.site path pre parentNullable).base = f.ann.baseType := by
  simp [Site.base, Site.bare, site, Ty.baseType_stripTags]

@[simp]
theorem site_columnName : (f.site path pre parentNullable).columnName = pre ++ f.levelName := by
  simp only [Site.columnName, site_tag, levelName]
  rfl

@[simp]
theorem site_path : (f.site path pre parentNullable).path = path ++ [f.name] := rfl

@[simp]
theorem site_nullable :
    (f.site path pre parentNullable).nullable = (f.admitsNone || parentNullable) := by
  simp only [Site.nullable, site_base, admitsNone]
  rfl

theorem site_embeds {c : ClassRef} : (f.site path pre parentNullable).Embeds c ↔ f.Embeds c := by
  simp [Site.Embeds, Embeds]

end Field

namespace Site

variable {s : Site} {cat : Catalog}

/-- A site embeds at most one structure. -/
theorem Embeds.unique {c d : ClassRef} (first : s.Embeds c) (second : s.Embeds d) : c = d := by
  have same : Ty.cls c = Ty.cls d := first.2.1.symm.trans second.2.1
  injection same

/-! ## One level of the expansion -/

theorem columns_leaf (flat : s.tag.embed = false) (fuel : Nat) : s.columns cat (fuel + 1) = .ok [s.leaf] := by
  simp only [columns, Catalog.fieldColumns]
  simp only [tag] at flat
  simp [flat, leaf, tag, base, bare, nullable, columnName]
  rfl

theorem columns_embed {c : ClassRef} (embeds : s.Embeds c) (fuel : Nat) :
    s.columns cat (fuel + 1) = List.flatten <$> (cat.fields c.id).mapM fun f => (s.sub f).columns cat fuel := by
  obtain ⟨declared, base, struct⟩ := embeds
  simp only [tag, Site.base, bare] at declared base
  simp only [columns, Catalog.fieldColumns, declared, base, struct, if_true]
  simp [map_eq_bind_pure_comp, sub, Field.site, columnName, nullable, Site.base, bare, tag]

theorem columns_not_struct (declared : s.tag.embed = true) (notStruct : ∀ c, ¬ s.Embeds c) (fuel : Nat) :
    s.columns cat (fuel + 1) =
      .error (.configuration ("column " ++ displayString s.columnName ++ ": only Pydantic models can be embedded")) := by
  simp only [tag] at declared
  simp only [columns, Catalog.fieldColumns, declared, if_true]
  split
  · rename_i c base
    have notEmbeds := notStruct c
    simp only [Embeds, tag, Site.base, bare, base, declared, true_and] at notEmbeds
    simp [notEmbeds]
    rfl
  · rfl

end Site

/-! ## The embedding tree -/

mutual

/-- The leaves of the embedding tree below a site, in declaration order, each given by the chain
of embedded fields on the way to it: a site declared as no embedded structure is its own one
leaf, and one that embeds a structure has the leaves of the structure's fields, field after
field. -/
inductive Site.Leaves (cat : Catalog) : Site → List (List Field) → Prop
  | leaf {s : Site} : s.tag.embed = false → Site.Leaves cat s [[]]
  | embed {s : Site} {c : ClassRef} {chains : List (List Field)} :
      s.Embeds c → Site.FieldLeaves cat s (cat.fields c.id) chains → Site.Leaves cat s chains

/-- The leaves below some fields of the structure a site embeds, field after field. -/
inductive Site.FieldLeaves (cat : Catalog) : Site → List Field → List (List Field) → Prop
  | nil {s : Site} : Site.FieldLeaves cat s [] []
  | cons {s : Site} {f : Field} {fs : List Field} {first rest : List (List Field)} :
      Site.Leaves cat (s.sub f) first → Site.FieldLeaves cat s fs rest →
      Site.FieldLeaves cat s (f :: fs) (first.map (f :: ·) ++ rest)

end

/-- The embedding below a site goes at least `depth` levels deep. -/
def Site.Deep (cat : Catalog) : Nat → Site → Prop
  | 0, _ => True
  | depth + 1, s => ∃ c, s.Embeds c ∧ ∃ f ∈ cat.fields c.id, Site.Deep cat depth (s.sub f)

/-- A list of lists, each computed, flattened: the first computed, then the flattened rest. -/
theorem flatten_mapM_cons_ok {α β : Type} {g : α → Except Fault (List β)} {x : α} {xs : List α}
    {ys : List β} :
    List.flatten <$> (x :: xs).mapM g = .ok ys ↔
      ∃ first rest, g x = .ok first ∧ List.flatten <$> xs.mapM g = .ok rest ∧ ys = first ++ rest := by
  rw [List.mapM_cons]
  cases computed : g x with
  | error e => simp [bind, Except.bind, Functor.map, Except.map]
  | ok first =>
    cases more : xs.mapM g with
    | error e => simp [bind, Except.bind, Functor.map, Except.map]
    | ok rest => simp [bind, Except.bind, Functor.map, Except.map, pure, Except.pure, eq_comm]

namespace Site

variable {s : Site} {cat : Catalog}

theorem leaves_of_flat (flat : s.tag.embed = false) {chains : List (List Field)} :
    s.Leaves cat chains ↔ chains = [[]] := by
  constructor
  · intro leaves
    cases leaves with
    | leaf _ => rfl
    | embed embeds _ => simp [Embeds, flat] at embeds
  · rintro rfl
    exact .leaf flat

theorem leaves_of_embeds {c : ClassRef} (embeds : s.Embeds c) {chains : List (List Field)} :
    s.Leaves cat chains ↔ s.FieldLeaves cat (cat.fields c.id) chains := by
  constructor
  · intro leaves
    cases leaves with
    | leaf flat => simp [Embeds, flat] at embeds
    | embed other fieldLeaves => rwa [embeds.unique other]
  · exact .embed embeds

theorem not_leaves (declared : s.tag.embed = true) (notStruct : ∀ c, ¬ s.Embeds c)
    {chains : List (List Field)} : ¬ s.Leaves cat chains := by
  intro leaves
  cases leaves with
  | leaf flat => simp [declared] at flat
  | embed embeds _ => exact notStruct _ embeds

theorem fieldLeaves_nil_iff {chains : List (List Field)} : s.FieldLeaves cat [] chains ↔ chains = [] := by
  constructor
  · intro leaves
    cases leaves
    rfl
  · rintro rfl
    exact .nil

theorem fieldLeaves_cons_iff {f : Field} {fs : List Field} {chains : List (List Field)} :
    s.FieldLeaves cat (f :: fs) chains ↔
      ∃ first rest, (s.sub f).Leaves cat first ∧ s.FieldLeaves cat fs rest ∧ chains = first.map (f :: ·) ++ rest := by
  constructor
  · intro leaves
    cases leaves with
    | cons first rest => exact ⟨_, _, first, rest, rfl⟩
  · rintro ⟨first, rest, leaves, more, rfl⟩
    exact .cons leaves more

theorem leafColumn_cons (f : Field) (first rest : List (List Field)) :
    (first.map (f :: ·) ++ rest).map s.leafColumn = first.map (s.sub f).leafColumn ++ rest.map s.leafColumn := by
  simp [leafColumn, Function.comp_def]

/-- The columns of some fields of a structure are those of their leaves, field after field, when
each field's columns are those of its own leaves. -/
theorem flatten_mapM_ok_iff {g : Field → Except Fault (List Column)} :
    ∀ {fs : List Field},
      (∀ f ∈ fs, ∀ cols, g f = .ok cols ↔ ∃ chains, (s.sub f).Leaves cat chains ∧ cols = chains.map (s.sub f).leafColumn) →
      ∀ cols, List.flatten <$> fs.mapM g = .ok cols ↔ ∃ chains, s.FieldLeaves cat fs chains ∧ cols = chains.map s.leafColumn
  | [], _, cols => by
    simp only [fieldLeaves_nil_iff, exists_eq_left, List.map_nil]
    simp [List.mapM_nil, Functor.map, Except.map, pure, Except.pure, eq_comm]
  | f :: fs, each, cols => by
    have first := each f List.mem_cons_self
    have rest : ∀ cols, List.flatten <$> fs.mapM g = .ok cols ↔
        ∃ chains, s.FieldLeaves cat fs chains ∧ cols = chains.map s.leafColumn :=
      flatten_mapM_ok_iff fun other mem => each other (List.mem_cons_of_mem f mem)
    simp only [flatten_mapM_cons_ok, first, rest, fieldLeaves_cons_iff]
    constructor
    · rintro ⟨_, _, ⟨firstChains, firstLeaves, rfl⟩, ⟨restChains, restLeaves, rfl⟩, rfl⟩
      exact ⟨_, ⟨firstChains, restChains, firstLeaves, restLeaves, rfl⟩, (leafColumn_cons f _ _).symm⟩
    · rintro ⟨_, ⟨firstChains, restChains, firstLeaves, restLeaves, rfl⟩, rfl⟩
      exact ⟨_, _, ⟨firstChains, firstLeaves, rfl⟩, ⟨restChains, restLeaves, rfl⟩, leafColumn_cons f _ _⟩

/-- With fuel beyond the depth of its embedding, the columns of a site are those of the leaves of
its embedding tree, in order; a site with no such tree (an embedded class that is no structure)
gives none. -/
theorem columns_eq_ok_iff : ∀ (fuel : Nat) (s : Site), ¬ s.Deep cat fuel →
    ∀ cols, s.columns cat fuel = .ok cols ↔ ∃ chains, s.Leaves cat chains ∧ cols = chains.map s.leafColumn
  | 0, _, shallow, _ => absurd trivial shallow
  | fuel + 1, s, shallow, cols => by
    cases declared : s.tag.embed with
    | false =>
      rw [columns_leaf declared]
      simp [leaves_of_flat declared, leafColumn, eq_comm]
    | true =>
      by_cases embedsSome : ∃ c, s.Embeds c
      · obtain ⟨c, embeds⟩ := embedsSome
        -- the fields below are shallower by one level, so the recursion's own answer is theirs
        have each : ∀ f ∈ cat.fields c.id, ¬ (s.sub f).Deep cat fuel :=
          fun f mem deep => shallow ⟨c, embeds, f, mem, deep⟩
        rw [columns_embed embeds]
        simp only [leaves_of_embeds embeds]
        exact flatten_mapM_ok_iff (fun f mem => columns_eq_ok_iff fuel (s.sub f) (each f mem)) cols
      · have notStruct : ∀ c, ¬ s.Embeds c := not_exists.1 embedsSome
        rw [columns_not_struct declared notStruct]
        simp [not_leaves declared notStruct]

end Site

/-! ## Enough fuel -/

namespace Catalog

variable (cat : Catalog)

/-- The class at place `i` embeds the structure at place `j`: one of its fields is an embedded
field of it. -/
def EmbedEdge (i j : Nat) : Prop := ∃ f ∈ cat.fields i, ∃ c, f.Embeds c ∧ c.id = j

/-- No structure that a field embeds, directly or through the structures it embeds, lies on a
cycle of embeddings. -/
def EmbedsAcyclically (f : Field) : Prop :=
  ∀ c, f.Embeds c → ∀ j, Relation.ReflTransGen cat.EmbedEdge c.id j → ¬ Relation.TransGen cat.EmbedEdge j j

variable {cat}

/-- Only declared classes have fields. -/
theorem lt_size_of_mem_fields {i : Nat} {f : Field} (mem : f ∈ cat.fields i) : i < cat.decls.size := by
  by_contra outside
  have undeclared : cat.model? i = none := by
    simp [model?, get?, Nat.le_of_not_lt outside]
  rw [fields, undeclared] at mem
  simp at mem

end Catalog

/-- A walk through more places than there are below a bound comes back to one of them. -/
theorem exists_cycle_of_isChain {R : Nat → Nat → Prop} {bound v : Nat} {walk : List Nat}
    (chain : List.IsChain R (v :: walk)) (below : ∀ i ∈ v :: walk, i < bound) (long : bound ≤ walk.length) :
    ∃ w, Relation.ReflTransGen R v w ∧ Relation.TransGen R w w := by
  have ordered : List.Pairwise (Relation.TransGen R) (v :: walk) :=
    List.isChain_iff_pairwise.1 (chain.imp fun _ _ step => Relation.TransGen.single step)
  have repeats : ¬ (v :: walk).Nodup := by
    intro distinct
    have within : (v :: walk).toFinset ⊆ Finset.range bound := by
      intro i member
      simpa using below i (List.mem_toFinset.1 member)
    have counted := Finset.card_le_card within
    rw [List.toFinset_card_of_nodup distinct, Finset.card_range, List.length_cons] at counted
    omega
  obtain ⟨w, twice⟩ : ∃ w, List.Sublist [w, w] (v :: walk) := by
    simpa [List.nodup_iff_sublist] using repeats
  have cycle : Relation.TransGen R w w := by
    simpa using ordered.sublist twice
  have reached : Relation.ReflTransGen R v w := by
    rcases List.mem_cons.1 (twice.subset List.mem_cons_self) with rfl | later
    · exact .refl
    · exact (List.rel_of_pairwise_cons ordered later).to_reflTransGen
  exact ⟨w, reached, cycle⟩

/-- An embedding `depth + 1` levels deep passes through declared structures along a walk of
`depth` embeddings. -/
theorem Site.deep_walk {cat : Catalog} : ∀ (depth : Nat) (s : Site), s.Deep cat (depth + 1) →
    ∃ c, s.Embeds c ∧ ∃ walk : List Nat, walk.length = depth ∧ List.IsChain cat.EmbedEdge (c.id :: walk) ∧
      ∀ i ∈ c.id :: walk, i < cat.decls.size
  | 0, _, ⟨c, embeds, _, mem, _⟩ =>
    ⟨c, embeds, [], rfl, List.isChain_singleton _, by simpa using Catalog.lt_size_of_mem_fields mem⟩
  | depth + 1, s, ⟨c, embeds, f, mem, deeper⟩ => by
    obtain ⟨d, below, walk, length, chain, declared⟩ := Site.deep_walk depth (s.sub f) deeper
    have edge : cat.EmbedEdge c.id d.id := ⟨f, mem, d, (Field.site_embeds _ _ _ _).1 below, rfl⟩
    refine ⟨c, embeds, d.id :: walk, by simp [length], List.isChain_cons_cons.2 ⟨edge, chain⟩, ?_⟩
    intro i member
    rcases List.mem_cons.1 member with rfl | later
    · exact Catalog.lt_size_of_mem_fields mem
    · exact declared i later

/-- Below a field none of whose embedded structures lies on a cycle, the embedding is no deeper
than the number of declared classes: a deeper one would pass some class twice. -/
theorem Catalog.EmbedsAcyclically.not_deep {cat : Catalog} {f : Field} (acyclic : cat.EmbedsAcyclically f)
    (path : List String) (pre : String) (parentNullable : Bool) :
    ¬ (f.site path pre parentNullable).Deep cat (cat.decls.size + 1) := by
  intro deep
  obtain ⟨c, embeds, walk, length, chain, declared⟩ := Site.deep_walk _ _ deep
  obtain ⟨w, reached, cycle⟩ := exists_cycle_of_isChain chain declared length.ge
  exact acyclic c ((Field.site_embeds _ _ _ _).1 embeds) w reached cycle

/-! ## A field of an entity class -/

namespace Catalog

variable {cat : Catalog}

/-- A field of an entity class gives columns exactly when it is no relation, and they are those of
its site. -/
theorem fieldPart_eq_columns_iff (c : ClassRef) (f : Field) (cols : List Column) :
    cat.fieldPart c f = .ok (.inl cols) ↔
      relationTarget? (Ty.stripTags f.ann).1 = none ∧ relationTagOf (Ty.stripTags f.ann).2 = none ∧
        f.top.columns cat (cat.decls.size + 1) = .ok cols := by
  simp only [fieldPart]
  cases target : relationTarget? (Ty.stripTags f.ann).1 with
  | some found => simp [pure, Except.pure]
  | none =>
    cases declared : relationTagOf (Ty.stripTags f.ann).2 with
    | some relation => simp [throw, throwThe, MonadExceptOf.throw]
    | none =>
      simp only [Field.top, Field.site, Site.columns, List.nil_append, true_and]
      cases cat.fieldColumns (cat.decls.size + 1) (snakeCase f.name) [f.name] (Ty.stripTags f.ann).1
        (Ty.stripTags f.ann).2 (f.default.getD .none) "" false <;>
        simp [bind, Except.bind, pure, Except.pure]

/-- A field of an entity class, none of whose embedded structures lies on a cycle, gives the
columns of the leaves of its embedding tree, in order, when it is no relation. -/
theorem fieldPart_columns_iff (c : ClassRef) {f : Field} (acyclic : cat.EmbedsAcyclically f)
    (cols : List Column) :
    cat.fieldPart c f = .ok (.inl cols) ↔
      relationTarget? (Ty.stripTags f.ann).1 = none ∧ relationTagOf (Ty.stripTags f.ann).2 = none ∧
        ∃ chains, f.top.Leaves cat chains ∧ cols = chains.map f.top.leafColumn := by
  have shallow : ¬ f.top.Deep cat (cat.decls.size + 1) := acyclic.not_deep [] "" false
  rw [fieldPart_eq_columns_iff, Site.columns_eq_ok_iff _ _ shallow]

end Catalog

/-! ## The column of a leaf -/

namespace Field

/-- A leaf column is named by the levels from the field down, joined with `__`, after the
prefix. -/
theorem leafColumn_name : ∀ (chain : List Field) (f : Field) (path : List String) (pre : String)
    (parentNullable : Bool),
    ((f.site path pre parentNullable).leafColumn chain).name = pre ++ "__".intercalate ((f :: chain).map levelName)
  | [], f, path, pre, parentNullable => by simp [Site.leafColumn, Site.leaf]
  | g :: rest, f, path, pre, parentNullable => by
    rw [Site.leafColumn, Site.sub, leafColumn_name rest g, site_columnName]
    simp [String.intercalate_cons_cons, String.append_assoc]

/-- A leaf column is reached through the attributes from the field down. -/
theorem leafColumn_path : ∀ (chain : List Field) (f : Field) (path : List String) (pre : String)
    (parentNullable : Bool),
    ((f.site path pre parentNullable).leafColumn chain).path = path ++ (f :: chain).map Field.name
  | [], f, path, pre, parentNullable => by simp [Site.leafColumn, Site.leaf]
  | g :: rest, f, path, pre, parentNullable => by
    rw [Site.leafColumn, Site.sub, leafColumn_path rest g, site_path]
    simp

/-- A leaf column may hold `None` when the enclosing field may be `None` or some level from the
field down admits it. -/
theorem leafColumn_nullable : ∀ (chain : List Field) (f : Field) (path : List String) (pre : String)
    (parentNullable : Bool),
    ((f.site path pre parentNullable).leafColumn chain).nullable = (parentNullable || (f :: chain).any admitsNone)
  | [], f, path, pre, parentNullable => by
    simp only [Site.leafColumn, Site.leaf, site_nullable, List.any_cons, List.any_nil, Bool.or_false]
    exact Bool.or_comm _ _
  | g :: rest, f, path, pre, parentNullable => by
    rw [Site.leafColumn, Site.sub, leafColumn_nullable rest g, site_nullable]
    simp only [List.any_cons]
    cases f.admitsNone <;> cases parentNullable <;> rfl

end Field

namespace Column

/-- A step from `None` finds `None`, so reading a path stops at the first `None`. -/
theorem foldl_attributeOf_none : ∀ path : List String, path.foldl attributeOf .none = .none
  | [] => rfl
  | _ :: rest => foldl_attributeOf_none rest

/-- A column's value is read attribute by attribute along its path. -/
theorem getValue_eq_foldl (c : Column) (v : Value) : c.getValue v = c.path.foldl attributeOf v := by
  unfold getValue
  congr
  funext acc part
  cases acc <;> rfl

end Column

/-! ## What admits `None` -/

namespace Ty

theorem plainBase_true_nullable (t : Ty) : (plainBase t true).nullable = true := by
  cases t <;> rfl

theorem plainBase_false_nullable_iff (t : Ty) : (plainBase t false).nullable = true ↔ t = .any := by
  cases t <;> simp [plainBase]

/-- A normal union has at least two members. -/
theorem Normal.two_le_of_unionArgs {t : Ty} (normal : Normal t) {members : List Ty}
    (union : t.unionArgs? = some members) : 2 ≤ members.length := by
  cases normal with
  | union _ _ _ several | pipe _ _ _ several =>
    simp only [unionArgs?, Option.some.injEq] at union
    exact union ▸ several
  | _ => simp [unionArgs?] at union

/-- A union of at least two members admits `None` exactly when `None` is among them. -/
theorem membersBase_nullable_iff {members : List Ty} (several : 2 ≤ members.length) :
    (membersBase members).nullable = true ↔ none ∈ members := by
  have dropped : (members.filter (· != none)).length < members.length ↔ none ∈ members := by
    rw [List.length_filter_lt_length_iff_exists]
    simp
  simp only [membersBase]
  split
  · -- one member besides `None` among at least two: `None` is another
    rename_i one single
    have withNone : none ∈ members := dropped.1 (by rw [single]; simp only [List.length_singleton]; omega)
    simp only [withNone, iff_true]
    rw [decide_eq_true (dropped.2 withNone)]
    exact plainBase_true_nullable _
  · simp [dropped]

/-- A built annotation admits `None` exactly when, metadata aside, it is `Any` or a union with
`None` among its members. -/
theorem Built.nullable_iff {t : Ty} (built : t.Built) :
    t.baseType.nullable = true ↔
      (stripTags t).1 = .any ∨ ∃ members, (stripTags t).1.unionArgs? = some members ∧ none ∈ members := by
  have stripNormal := built.normal.stripTags.1
  cases unionCase : (stripTags t).1.unionArgs? with
  | none =>
    rw [baseType_of_not_union unionCase, plainBase_false_nullable_iff]
    simp
  | some members =>
    have notAny : (stripTags t).1 ≠ .any := by
      intro isAny
      simp [isAny, unionArgs?] at unionCase
    rw [baseType_of_unionArgs unionCase, membersBase_nullable_iff (stripNormal.two_le_of_unionArgs unionCase)]
    simp [notAny]

end Ty

/-! ## Names and the default key of a schema -/

/-- The check of names finds no repeat exactly when the names differ from each other and from
those already seen, case ignored. -/
theorem firstDuplicate_eq_none_iff : ∀ (seen names : List String),
    firstDuplicate seen names = none ↔ (names.map lower).Nodup ∧ ∀ n ∈ names, lower n ∉ seen := by
  intro seen names
  induction names generalizing seen with
  | nil => simp [firstDuplicate]
  | cons n rest ih =>
    rw [firstDuplicate]
    split
    · rename_i repeated
      have seenBefore : lower n ∈ seen := by simpa using repeated
      simp only [reduceCtorEq, false_iff, not_and]
      exact fun _ unseen => unseen n List.mem_cons_self seenBefore
    · rename_i fresh
      have unseen : lower n ∉ seen := by simpa using fresh
      rw [ih]
      simp only [List.map_cons, List.nodup_cons, List.mem_map, List.forall_mem_cons]
      simp only [List.mem_cons, not_or]
      constructor
      · rintro ⟨distinct, others⟩
        have fresh : ¬∃ m ∈ rest, lower m = lower n := by
          rintro ⟨m, mem, same⟩
          exact (others m mem).1 same
        exact ⟨⟨fresh, distinct⟩, unseen, fun m mem => (others m mem).2⟩
      · rintro ⟨⟨first, distinct⟩, -, others⟩
        exact ⟨distinct, fun m mem => ⟨fun same => first ⟨m, mem, same⟩, others m mem⟩⟩

/-- The repeat the check reports is one of the names. -/
theorem mem_of_firstDuplicate : ∀ {seen names : List String} {n : String},
    firstDuplicate seen names = some n → n ∈ names
  | _, [], _, found => by simp [firstDuplicate] at found
  | seen, m :: rest, n, found => by
    rw [firstDuplicate] at found
    split at found
    · cases found
      exact List.mem_cons_self
    · exact List.mem_cons_of_mem m (mem_of_firstDuplicate found)

/-- How the default key changes a column: a column named `id` at the top level, its path one
attribute long, becomes the key, generated when declared so or when it holds integers; all else
is kept. -/
def Column.KeyedByDefault (old new : Column) : Prop :=
  new.pk = (old.name == "id" && old.path.length == 1) ∧
    new.autoincrement = (old.autoincrement || new.pk && old.base == .builtin .int) ∧
    { new with pk := old.pk, autoincrement := old.autoincrement } = old

theorem withDefaultKey_names (cols : List Column) :
    (withDefaultKey cols).map Column.name = cols.map Column.name := by
  unfold withDefaultKey
  split
  · rfl
  · rw [List.map_map]
    refine List.map_congr_left fun c _ => ?_
    simp only [Function.comp]
    split <;> rfl

theorem withDefaultKey_of_key {cols : List Column} (key : cols.any (·.pk) = true) : withDefaultKey cols = cols := by
  simp [withDefaultKey, key]

/-- Without a declared key, the default key changes each column as `Column.KeyedByDefault` says. -/
theorem withDefaultKey_of_no_key {cols : List Column} (noKey : cols.any (·.pk) = false) :
    List.Forall₂ Column.KeyedByDefault cols (withDefaultKey cols) := by
  rw [withDefaultKey, if_neg (by simp [noKey]), List.forall₂_map_right_iff, List.forall₂_same]
  intro c mem
  have undeclared : c.pk = false := by
    simpa using List.any_eq_false.1 noKey c mem
  split
  · rename_i named
    refine ⟨named.symm, by simp, ?_⟩
    cases c
    simp_all
  · rename_i unnamed
    simp only [Bool.not_eq_true] at unnamed
    exact ⟨by rw [unnamed, undeclared], by simp [undeclared], rfl⟩

namespace Catalog

variable {cat : Catalog}

/-- A built schema has the columns of its fields' parts, their names differing, with the default
key. -/
theorem buildSchema_ok {c : ClassRef} {schema : TableSchema} (built : cat.buildSchema c = .ok schema) :
    ∃ parts, cat.fieldParts c = .ok parts ∧ firstDuplicate [] ((partColumns parts).map (·.name)) = none ∧
      schema.columns = withDefaultKey (partColumns parts) := by
  simp only [buildSchema] at built
  cases found : cat.fieldParts c with
  | error e => simp [found, bind, Except.bind] at built
  | ok parts =>
    cases repeated : firstDuplicate [] ((partColumns parts).map (·.name)) with
    | some n => simp [found, repeated, bind, Except.bind, throw, throwThe, MonadExceptOf.throw] at built
    | none =>
      simp [found, repeated, bind, Except.bind, pure, Except.pure] at built
      exact ⟨parts, rfl, repeated, by rw [← built]⟩

/-- A name repeated among the fields' columns fails the schema, naming the repeat. -/
theorem buildSchema_of_duplicate {c : ClassRef} {parts : List (List Column ⊕ Relation)} {n : String}
    (found : cat.fieldParts c = .ok parts) (repeated : firstDuplicate [] ((partColumns parts).map (·.name)) = some n) :
    cat.buildSchema c = .error (.configuration (c.name ++ ": duplicate column name " ++ displayString n)) := by
  simp [buildSchema, found, repeated, bind, Except.bind, throw, throwThe, MonadExceptOf.throw]

end Catalog

theorem withDefaultKey_lower_names (cols : List Column) :
    (withDefaultKey cols).map (fun col => lower col.name) = cols.map fun col => lower col.name := by
  simpa [List.map_map, Function.comp_def] using congrArg (List.map lower) (withDefaultKey_names cols)

/-! ## Main statement -/

/-- The columns of an entity class. A stored field none of whose embedded structures lies on a
cycle gives one column per leaf of its embedding tree, in declaration order. The column of a leaf
is named by the levels down to it joined with `__`, is reached through their attributes, a `None`
on the way giving `None`, and may hold `None` exactly when some level admits it; a built
annotation admits `None` exactly when it is `Any` or a union with `None`. Column names differ
when case is ignored, a repeated one failing the schema with a configuration fault; without a
declared key the top-level columns named `id` become the key, generated when declared so or when
they hold integers. -/
theorem embedded_fields_give_leaf_columns (cat : Catalog) :
    (∀ c f, cat.EmbedsAcyclically f → ∀ cols,
      cat.fieldPart c f = .ok (.inl cols) ↔
        relationTarget? (Ty.stripTags f.ann).1 = none ∧ relationTagOf (Ty.stripTags f.ann).2 = none ∧
          ∃ chains, f.top.Leaves cat chains ∧ cols = chains.map f.top.leafColumn) ∧
    (∀ (f : Field) (chain : List Field),
      (f.top.leafColumn chain).name = "__".intercalate ((f :: chain).map Field.levelName) ∧
      (f.top.leafColumn chain).path = (f :: chain).map Field.name ∧
      (∀ v, (f.top.leafColumn chain).getValue v = (f :: chain).foldl (fun acc g => Column.attributeOf acc g.name) v) ∧
      ((f.top.leafColumn chain).nullable = true ↔ ∃ g ∈ f :: chain, g.admitsNone = true)) ∧
    (∀ path : List String, path.foldl Column.attributeOf .none = .none) ∧
    (∀ t : Ty, t.Built → (t.baseType.nullable = true ↔
      (Ty.stripTags t).1 = .any ∨ ∃ members, (Ty.stripTags t).1.unionArgs? = some members ∧ Ty.none ∈ members)) ∧
    (∀ c schema, cat.buildSchema c = .ok schema → (schema.columns.map fun col => lower col.name).Nodup) ∧
    (∀ c parts, cat.fieldParts c = .ok parts → ¬ ((partColumns parts).map fun col => lower col.name).Nodup →
      ∃ n ∈ (partColumns parts).map (·.name),
        cat.buildSchema c = .error (.configuration (c.name ++ ": duplicate column name " ++ displayString n))) ∧
    (∀ c schema, cat.buildSchema c = .ok schema → ∃ parts, cat.fieldParts c = .ok parts ∧
      ((partColumns parts).any (·.pk) = false → List.Forall₂ Column.KeyedByDefault (partColumns parts) schema.columns) ∧
      ((partColumns parts).any (·.pk) = true → schema.columns = partColumns parts)) := by
  refine ⟨fun c f acyclic cols => cat.fieldPart_columns_iff c acyclic cols, fun f chain => ?_,
    Column.foldl_attributeOf_none, fun t built => Ty.Built.nullable_iff built, fun c schema built => ?_,
    fun c parts found repeats => ?_, fun c schema built => ?_⟩
  · -- the column of one leaf, read at the top level: no prefix, no path before, no enclosing field
    refine ⟨by simpa [Field.top] using Field.leafColumn_name chain f [] "" false,
      by simpa [Field.top] using Field.leafColumn_path chain f [] "" false, fun v => ?_, ?_⟩
    · rw [Column.getValue_eq_foldl, Field.top, Field.leafColumn_path, List.nil_append, List.foldl_map]
    · rw [Field.top, Field.leafColumn_nullable, Bool.false_or, List.any_eq_true]
  · obtain ⟨parts, -, distinct, columns⟩ := Catalog.buildSchema_ok built
    have names := ((firstDuplicate_eq_none_iff [] _).1 distinct).1
    rw [List.map_map] at names
    rw [columns, withDefaultKey_lower_names]
    exact names
  · cases repeated : firstDuplicate [] ((partColumns parts).map (·.name)) with
    | none =>
      have names := ((firstDuplicate_eq_none_iff [] _).1 repeated).1
      rw [List.map_map] at names
      exact absurd names repeats
    | some n => exact ⟨n, mem_of_firstDuplicate repeated, Catalog.buildSchema_of_duplicate found repeated⟩
  · obtain ⟨parts, found, -, columns⟩ := Catalog.buildSchema_ok built
    exact ⟨parts, found, fun noKey => columns ▸ withDefaultKey_of_no_key noKey,
      fun key => columns.trans (withDefaultKey_of_key key)⟩

/-- A structure `Address`. -/
def addressRef : ClassRef := ⟨0, "Address", .struct⟩

/-- An entity class `Customer`. -/
def customerRef : ClassRef := ⟨1, "Customer", .table⟩

/-- `home: Annotated[Address, column(embed=True)]`. -/
def homeField : Field := ⟨"home", .annotated (.cls addressRef) [.column { embed := true }], none⟩

/-- `Address` with a city and an optional zip code, then `Customer` with a key and a home
address. -/
def customerCatalog : Catalog :=
  ⟨#[⟨addressRef, .model ⟨none, none, none,
      [⟨"city", .builtin .str, none⟩, ⟨"zipCode", Ty.mkOptional (.builtin .str), some .none⟩], []⟩⟩,
    ⟨customerRef, .model ⟨none, none, none, [⟨"id", .builtin .int, none⟩, homeField], []⟩⟩]⟩

/-- A customer's home address embeds a structure that embeds nothing further, so the home field is
described by the leaves of its embedding tree. -/
theorem home_address_expands_to_leaves :
    customerCatalog.EmbedsAcyclically homeField ∧
      ∀ cols, customerCatalog.fieldPart customerRef homeField = .ok (.inl cols) ↔
        relationTarget? (Ty.stripTags homeField.ann).1 = none ∧ relationTagOf (Ty.stripTags homeField.ann).2 = none ∧
          ∃ chains, homeField.top.Leaves customerCatalog chains ∧ cols = chains.map homeField.top.leafColumn := by
  -- the field list is well-founded, so it is read by its equations
  have addressFields : customerCatalog.fields 0 =
      [⟨"city", .builtin .str, none⟩, ⟨"zipCode", Ty.mkOptional (.builtin .str), some .none⟩] := by
    simp [Catalog.fields, Catalog.model?, Catalog.get?, customerCatalog, Catalog.placeField]
  have flat : ∀ g ∈ customerCatalog.fields 0, g.tag.embed = false := by
    rw [addressFields]
    simp only [List.mem_cons, List.not_mem_nil, or_false, forall_eq_or_imp, forall_eq]
    constructor <;> cbv
  have noEdge : ∀ j, ¬ customerCatalog.EmbedEdge 0 j := by
    rintro j ⟨g, mem, d, embeds, -⟩
    simp [Field.Embeds, flat g mem] at embeds
  have acyclic : customerCatalog.EmbedsAcyclically homeField := by
    intro c embeds j reached cycle
    have address : Ty.cls addressRef = Ty.cls c := embeds.2.1
    cases address
    rcases reached.cases_head with rfl | ⟨next, edge, -⟩
    · obtain ⟨next, edge, -⟩ := Relation.TransGen.head'_iff.1 cycle
      exact noEdge next edge
    · exact noEdge next edge
  exact ⟨acyclic, (embedded_fields_give_leaf_columns customerCatalog).1 customerRef homeField acyclic⟩

/-- A field typed `Any`, no `Optional`, gives a column that may hold `None`. -/
theorem any_field_column_is_nullable :
    (Sum.elim (List.map fun col => (col.name, col.nullable)) (fun _ => [])) <$>
        Catalog.empty.fieldPart ⟨0, "Doc", .table⟩ ⟨"data", .any, none⟩ = .ok [("data", true)] := by
  cbv

end SqlMapper
