import Mathlib
import SqlMapper.Proofs.BaseTypes
import SqlMapper.Schema.Table

/-!
# Where a field's declarations are read

A field's column and relation declarations are read from the metadata of its
annotation's outer layer: the field's own `Annotated[..., tags]`. Metadata
further in goes with the layer that carries it when the base is taken, so
`Optional[Annotated[T, tags]]` is described exactly as `Optional[T]`, whatever
the tags declare, while `Annotated[Optional[T], tags]` takes the declarations of
its tags. The two forms are described alike when the tags declare nothing (no
column options and no relation: other markers only) and `T` is neither `None`
nor a union; a key, a name or any other option declared in the inner layer is
lost.

This holds of an entity's fields (`Catalog.fieldPart`) and of the fields of an
embedded structure, which are expanded by `Catalog.fieldColumns` with their
metadata removed the same way. Columns are compared without the annotation they
were read from, which keeps the inner layer.
-/

set_option autoImplicit false

namespace SqlMapper

/-- A column without the annotation it was read from. -/
def Column.withoutAnnotation (c : Column) : Column := { c with ann := .any }

/-- What a field describes, its columns without their annotations. -/
def withoutAnnotations : List Column ⊕ Relation → List Column ⊕ Relation :=
  Sum.map (List.map Column.withoutAnnotation) id

namespace Ty

variable {t : Ty} (tags : List Tag)

theorem mkAnnotated_isMember : (mkAnnotated t tags).isMember = true := by
  cases t <;> rfl

theorem mkAnnotated_ne_none : mkAnnotated t tags ≠ none := by
  cases t <;> simp [mkAnnotated, none]

theorem not_text_of_isMember (member : t.isMember = true) (s : String) : t ≠ .text s := by
  rintro rfl
  simp [isMember] at member

/-- `Optional` of an annotation that stands in a union as itself carries no metadata. -/
theorem stripTags_mkOptional (member : t.isMember = true) (notNone : t ≠ none) :
    stripTags (mkOptional t) = (mkOptional t, []) := by
  rw [mkOptional_of_member member notNone]
  rfl

/-- Metadata inside `Optional` leaves the base of `Optional` as it is. -/
theorem baseType_mkOptional_mkAnnotated (member : t.isMember = true) (notNone : t ≠ none) :
    (mkOptional (mkAnnotated t tags)).baseType = (mkOptional t).baseType := by
  rw [mkOptional_of_member (mkAnnotated_isMember tags) (mkAnnotated_ne_none tags),
    mkOptional_of_member member notNone, baseType_union_none (mkAnnotated_ne_none tags),
    baseType_union_none notNone, stripTags_mkAnnotated tags (not_text_of_isMember member)]

end Ty

/-- Whether a field is a relation, and to what, depends on its annotation's base only. -/
theorem relationTarget?_congr {a b : Ty} (same : a.baseType = b.baseType) :
    relationTarget? a = relationTarget? b := by
  simp only [relationTarget?, same]

namespace Catalog

variable (cat : Catalog)

theorem columnTagOf_nil : columnTagOf [] = {} := rfl

theorem relationTagOf_nil : relationTagOf [] = none := rfl

/-- Two annotations without metadata of one base give the same columns, up to the annotation
each column keeps. -/
theorem fieldColumns_of_baseType {a b : Ty} (bareA : a.stripTags = (a, [])) (bareB : b.stripTags = (b, []))
    (same : a.baseType = b.baseType) (fuel : Nat) (name : String) (path : List String) (tags : List Tag)
    (default : Value) (pre : String) (parentNullable : Bool) :
    List.map Column.withoutAnnotation <$> cat.fieldColumns fuel name path a tags default pre parentNullable =
      List.map Column.withoutAnnotation <$> cat.fieldColumns fuel name path b tags default pre parentNullable := by
  cases fuel with
  | zero => rfl
  | succ fuel =>
    simp only [fieldColumns, bareA, bareB, same, List.append_nil]
    -- an embedded structure expands by its base alone; a plain column keeps its annotation
    split <;> rfl

/-- Metadata that declares no column options gives the columns of no metadata. -/
theorem fieldColumns_of_no_declaration {a : Ty} (bare : a.stripTags = (a, [])) {tags : List Tag}
    (nothing : columnTagOf tags = {}) (fuel : Nat) (name : String) (path : List String) (default : Value)
    (pre : String) (parentNullable : Bool) :
    cat.fieldColumns fuel name path a tags default pre parentNullable =
      cat.fieldColumns fuel name path a [] default pre parentNullable := by
  cases fuel with
  | zero => rfl
  | succ fuel => simp only [fieldColumns, bare, List.append_nil, nothing, columnTagOf_nil]

/-- Columns read the same up to their annotations describe the same field part. -/
theorem columns_part_congr {A B : Except Fault (List Column)}
    (same : List.map Column.withoutAnnotation <$> A = List.map Column.withoutAnnotation <$> B) :
    withoutAnnotations <$> (Sum.inl <$> A : Except Fault (List Column ⊕ Relation)) =
      withoutAnnotations <$> (Sum.inl <$> B : Except Fault (List Column ⊕ Relation)) := by
  cases A <;> cases B <;> simp_all [Functor.map, Except.map, withoutAnnotations]

/-- A field whose annotation carries no metadata of its own is described by its base alone, up to
the annotation its columns keep. -/
theorem fieldPart_of_baseType {a b : Ty} (bareA : a.stripTags = (a, [])) (bareB : b.stripTags = (b, []))
    (same : a.baseType = b.baseType) (c : ClassRef) (name : String) (default : Option Value) :
    withoutAnnotations <$> cat.fieldPart c ⟨name, a, default⟩ =
      withoutAnnotations <$> cat.fieldPart c ⟨name, b, default⟩ := by
  simp only [fieldPart, bareA, bareB, relationTagOf_nil, relationTarget?_congr same]
  split
  · rfl
  · rfl
  · exact columns_part_congr (cat.fieldColumns_of_baseType bareA bareB same _ _ _ _ _ _ _)

/-- Outer metadata that declares nothing describes the field as no metadata does. -/
theorem fieldPart_of_no_declaration {a : Ty} (bare : a.stripTags = (a, [])) {tags : List Tag}
    (nothing : columnTagOf tags = {}) (noRelation : relationTagOf tags = none) (c : ClassRef)
    (name : String) (default : Option Value) :
    cat.fieldPart c ⟨name, .annotated a tags, default⟩ = cat.fieldPart c ⟨name, a, default⟩ := by
  simp only [fieldPart, Ty.stripTags, bare, List.append_nil, noRelation, relationTagOf_nil,
    cat.fieldColumns_of_no_declaration bare nothing]

end Catalog

/-! ## Main statement -/

/-- The declarations of a field are read from its outer metadata only. For `T` neither `None`
nor a union: `Optional[Annotated[T, tags]]` is described as `Optional[T]`, the tags ignored,
both as an entity's field and as a structure's field at any depth of embedding, up to the
annotation its columns keep; and `Annotated[Optional[T], tags]`, when the tags declare no column
options and no relation, is described as `Optional[T]` too. -/
theorem field_declarations_read_from_outer_metadata (cat : Catalog) (c : ClassRef) (name : String)
    (default : Option Value) {T : Ty} (tags : List Tag) (member : T.isMember = true) (notNone : T ≠ Ty.none) :
    withoutAnnotations <$> cat.fieldPart c ⟨name, (T.mkAnnotated tags).mkOptional, default⟩ =
        withoutAnnotations <$> cat.fieldPart c ⟨name, T.mkOptional, default⟩ ∧
      (∀ fuel path value pre parentNullable,
        List.map Column.withoutAnnotation <$>
            cat.fieldColumns fuel name path (T.mkAnnotated tags).mkOptional [] value pre parentNullable =
          List.map Column.withoutAnnotation <$>
            cat.fieldColumns fuel name path T.mkOptional [] value pre parentNullable) ∧
      (columnTagOf tags = {} → relationTagOf tags = none →
        cat.fieldPart c ⟨name, T.mkOptional.mkAnnotated tags, default⟩ =
            cat.fieldPart c ⟨name, T.mkOptional, default⟩ ∧
          ∀ fuel path value pre parentNullable,
            cat.fieldColumns fuel name path T.mkOptional tags value pre parentNullable =
              cat.fieldColumns fuel name path T.mkOptional [] value pre parentNullable) := by
  have bare := Ty.stripTags_mkOptional member notNone
  have innerBare := Ty.stripTags_mkOptional (Ty.mkAnnotated_isMember (t := T) tags) (Ty.mkAnnotated_ne_none tags)
  have same := Ty.baseType_mkOptional_mkAnnotated tags member notNone
  have outer : T.mkOptional.mkAnnotated tags = .annotated T.mkOptional tags := by
    rw [Ty.mkOptional_of_member member notNone]
    rfl
  refine ⟨cat.fieldPart_of_baseType innerBare bare same c name default,
    fun fuel path value pre parentNullable =>
      cat.fieldColumns_of_baseType innerBare bare same fuel name path [] value pre parentNullable,
    fun nothing noRelation => ⟨?_, ?_⟩⟩
  · rw [outer]
    exact cat.fieldPart_of_no_declaration bare nothing noRelation c name default
  · exact fun fuel path value pre parentNullable =>
      cat.fieldColumns_of_no_declaration bare nothing fuel name path value pre parentNullable

/-- An entity class `Item`, the owner of the fields below. -/
def itemRef : ClassRef := ⟨0, "Item", .table⟩

/-- `column("item_code", pk=True)`. -/
def itemCodeKey : Tag := .column { name := some "item_code", pk := true }

/-- A marker that declares nothing leaves `Annotated[Optional[str], "calibrated"]` described as
`Optional[str]`. -/
theorem calibrated_marker_leaves_field_as_is :
    (Ty.builtin .str).isMember = true ∧ Ty.builtin .str ≠ Ty.none ∧
      Catalog.empty.fieldPart itemRef ⟨"level", (Ty.mkOptional (.builtin .str)).mkAnnotated [.note "calibrated"], some .none⟩ =
        Catalog.empty.fieldPart itemRef ⟨"level", Ty.mkOptional (.builtin .str), some .none⟩ := by
  have member : (Ty.builtin .str).isMember = true := rfl
  have notNone : Ty.builtin .str ≠ Ty.none := by simp [Ty.none]
  exact ⟨member, notNone,
    ((field_declarations_read_from_outer_metadata Catalog.empty itemRef "level" (some .none)
      [.note "calibrated"] member notNone).2.2 rfl rfl).1⟩

/-- A key declared inside `Optional` is lost: `Annotated[Optional[str], column("item_code",
pk=True)]` gives the key column `item_code`, `Optional[Annotated[str, column("item_code",
pk=True)]]` the plain column `code`. -/
theorem key_declared_under_optional_is_lost :
    (Sum.elim (List.map fun col => (col.name, col.pk)) (fun _ => [])) <$>
        Catalog.empty.fieldPart itemRef ⟨"code", (Ty.mkOptional (.builtin .str)).mkAnnotated [itemCodeKey], some .none⟩ =
        .ok [("item_code", true)] ∧
      (Sum.elim (List.map fun col => (col.name, col.pk)) (fun _ => [])) <$>
        Catalog.empty.fieldPart itemRef ⟨"code", Ty.mkOptional ((Ty.builtin .str).mkAnnotated [itemCodeKey]), some .none⟩ =
        .ok [("code", false)] := by
  constructor <;> cbv

end SqlMapper
