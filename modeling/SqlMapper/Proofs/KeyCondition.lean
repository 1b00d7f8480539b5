import Mathlib
import SqlMapper.Proofs.TemplateTokens
import SqlMapper.Proofs.WrittenPieces
import SqlMapper.Proofs.QuotedIdentifiers
import SqlMapper.Proofs.InlineLiterals
import SqlMapper.Proofs.ChildAttachment
/-!
# The condition on the keys of the bound instances

Filtering by key adds one condition to the WHERE clause: for a query bound to one
instance, each key column equal to the instance's value, joined by `AND`; for a list
of instances, the key column among their values, or the row of the key columns among
the rows of their values when the key has several columns. The condition is refused
when the query has no model, the model no key, no instance is bound, or an instance
has an empty key component; a refused condition stops the WHERE clause before
anything is written.

The writing is described by `SqlM.Writes`: a writing that ends well and appends a
fixed list of pieces. The key templates are read by the tokenizer, so the tokens of
each template are computed here, for any number of key columns.

What the written condition is true of is read by SQL's rules for `=`, `AND` and `IN`
(`KeyTestMeans`), over the engine's comparison of a stored value with a bound one: the
condition holds of a row exactly when, for one of the instances, every key column holds
a value equal to the instance's key value as bound. The key values are bound as they
are, so equality is the engine's: SQLite binds a datetime with an offset as its text,
and two such values for one instant at different offsets do not match.
-/

set_option autoImplicit false

namespace SqlMapper

open SqlMapper.Schema SqlMapper.Text SqlM

/-! ## The tokens of the key templates -/

namespace Text

theorem Slot.not_opens_of_head {cs : List Char} (stop : ∀ c ∈ cs.head?, isNameChar c = false) (slot : Slot) :
    ¬ slot.Opens cs := by
  rintro ⟨rest, spelled, -⟩
  obtain ⟨c, name, named⟩ : ∃ c name, slot.name.toList = c :: name := by
    cases slot <;> exact ⟨_, _, rfl⟩
  have first := Slot.isNameChar_of_mem_name slot c (by simp [named])
  rw [spelled, named] at stop
  simp [first] at stop

/-- Text with no question mark and no backslash is gathered as it is read. -/
theorem tokensOf_plain_append (pending : List Char) {text : List Char} (plain : ∀ c ∈ text, c ≠ '?' ∧ c ≠ '\\')
    (rest : List Char) : tokensOf pending (text ++ rest) = tokensOf (text.reverse ++ pending) rest := by
  induction text generalizing pending with
  | nil => rfl
  | cons c text ih =>
    obtain ⟨notQuestion, notBackslash⟩ := plain c (by simp)
    rw [List.cons_append, tokensOf.eq_4 _ _ _ (fun _ backslash _ => notBackslash backslash) notQuestion,
      ih _ fun d mem => plain d (by simp [mem])]
    simp

/-- Gathered text followed by a slot is one text token. -/
theorem tokensOf_text_slot (text : List Char) {rest : List Char} (plain : ∀ c ∈ text, c ≠ '?' ∧ c ≠ '\\') (written : text ≠ [])
    (unescaped : text.getLast? ≠ some '\\') :
    tokensOf [] (text ++ '?' :: rest) = .text (String.ofList text) :: tokensOf [] ('?' :: rest) := by
  rw [tokensOf_plain_append [] plain, List.append_nil,
    @tokensOf_of_startsToken text _ (.question rest unescaped)]
  simp [flushText, written]

theorem tokensOf_equality {rest : List Char} (stop : ∀ c ∈ rest.head?, isNameChar c = false) :
    tokensOf [] ("? = ?".toList ++ rest) = .positional :: .text " = " :: .positional :: tokensOf [] rest := by
  show tokensOf [] ('?' :: ([' ', '=', ' '] ++ '?' :: rest)) = _
  have spaced : ∀ c ∈ ([' ', '=', ' '] ++ '?' :: rest).head?, isNameChar c = false := by
    intro c mem
    rw [List.cons_append, List.head?_cons, Option.mem_some_iff] at mem
    rw [← mem]
    decide
  rw [tokensOf_positional (Slot.not_opens_of_head spaced),
    tokensOf_text_slot [' ', '=', ' '] (by simp) (by simp) (by simp),
    tokensOf_positional (Slot.not_opens_of_head stop)]

/-- Text with no question mark and no backslash at the end of a template is one text token. -/
theorem tokensOf_text_end (text : List Char) (plain : ∀ c ∈ text, c ≠ '?' ∧ c ≠ '\\') (written : text ≠ []) :
    tokensOf [] text = [.text (String.ofList text)] := by
  have whole := tokensOf_plain_append [] plain []
  rw [List.append_nil, List.append_nil] at whole
  rw [whole, tokensOf.eq_1]
  simp [flushText, written]

/-- A slot followed by text that no name character starts, or by nothing. -/
theorem tokensOf_slot {rest : List Char} (stop : ∀ c ∈ rest.head?, isNameChar c = false) :
    tokensOf [] ('?' :: rest) = .positional :: tokensOf [] rest :=
  tokensOf_positional (Slot.not_opens_of_head stop)

theorem tokenize_in : tokenize "? IN (?)" = [.positional, .text " IN (", .positional, .text ")"] := by
  show tokensOf [] ('?' :: ([' ', 'I', 'N', ' ', '('] ++ '?' :: [')'])) = _
  rw [tokensOf_slot (by simp; decide), tokensOf_text_slot _ (by simp) (by simp) (by simp),
    tokensOf_slot (by simp; decide), tokensOf_text_end _ (by simp) (by simp)]

theorem tokenize_row_in : tokenize "(?) IN (?)" = [.text "(", .positional, .text ") IN (", .positional, .text ")"] := by
  show tokensOf [] (['('] ++ '?' :: ([')', ' ', 'I', 'N', ' ', '('] ++ '?' :: [')'])) = _
  rw [tokensOf_text_slot _ (by simp) (by simp) (by simp), tokensOf_slot (by simp; decide),
    tokensOf_text_slot _ (by simp) (by simp) (by simp), tokensOf_slot (by simp; decide),
    tokensOf_text_end _ (by simp) (by simp)]

theorem tokenize_row : tokenize "(?)" = [.text "(", .positional, .text ")"] := by
  show tokensOf [] (['('] ++ '?' :: [')']) = _
  rw [tokensOf_text_slot _ (by simp) (by simp) (by simp), tokensOf_slot (by simp; decide),
    tokensOf_text_end _ (by simp) (by simp)]

theorem spaced_head (cs : List Char) : ∀ c ∈ (' ' :: cs).head?, isNameChar c = false := by
  intro c mem
  rw [List.head?_cons, Option.mem_some_iff] at mem
  rw [← mem]
  decide

/-- The equalities of several columns joined by `AND`, read before text that no name
character starts. -/
theorem tokensOf_equalities {α : Type} {rest : List Char} (stop : ∀ c ∈ rest.head?, isNameChar c = false)
    (x : α) (xs : List α) :
    tokensOf [] ((" AND ".intercalate ((x :: xs).map fun _ => "? = ?")).toList ++ rest) =
      List.intercalate [Token.text " AND "]
          ((x :: xs).map fun _ => [Token.positional, Token.text " = ", Token.positional]) ++
        tokensOf [] rest := by
  induction xs generalizing x with
  | nil => simpa using tokensOf_equality stop
  | cons y ys ih =>
    have starts : ∀ l : List String, (" AND ".intercalate ("? = ?" :: l)).toList =
        '?' :: (" AND ".intercalate (" = ?" :: l)).toList := by
      intro l
      rw [show "? = ?" = "?" ++ " = ?" from rfl, String.intercalate_cons_append, String.toList_append]
      rfl
    simp only [List.map_cons] at ih ⊢
    rw [String.intercalate_cons_cons, String.toList_append, String.toList_append, List.append_assoc,
      List.append_assoc, show " AND ".toList = [' ', 'A', 'N', 'D', ' '] from rfl, tokensOf_equality, starts,
      @List.cons_append _ '?', tokensOf_text_slot [' ', 'A', 'N', 'D', ' '] (by simp) (by simp) (by simp),
      ← @List.cons_append _ '?', ← starts, ih y,
      List.intercalate_cons_cons]
    · simp
    · exact spaced_head _

theorem tokenize_equalities {α : Type} {xs : List α} (nonempty : xs ≠ []) :
    tokenize (" AND ".intercalate (xs.map fun _ => "? = ?")) =
      List.intercalate [Token.text " AND "]
        (xs.map fun _ => [Token.positional, Token.text " = ", Token.positional]) := by
  obtain ⟨x, rest, rfl⟩ := List.exists_cons_of_ne_nil nonempty
  have whole := tokensOf_equalities (show ∀ c ∈ ([] : List Char).head?, isNameChar c = false by simp) x rest
  rw [List.append_nil, tokensOf.eq_1] at whole
  simpa [tokenize, flushText] using whole

end Text

/-! ## Writing the key tests -/

/-- The column of a key column, as the condition's templates receive it. -/
def Column.ref (pk : Column) : Value := .fragment (.column pk.name none)

section Painting

variable (fr : Frame) (n : Nat)

theorem value_ref_writes (pk : Column) :
    Writes ((Painter.upTo (n + 1)).value fr pk.ref) [.text (fr.columnText pk.name)] :=
  fr.writeColumn_writes pk.name

theorem value_within_writes {α : Type} {xs : List α} (nonempty : xs ≠ []) {f : α → Value}
    {ps : α → List Piece} (each : ∀ x ∈ xs, Writes ((Painter.upTo n).value fr (f x)) (ps x)) :
    Writes ((Painter.upTo (n + 1)).value fr (.fragment (.within (xs.map f))))
      (List.intercalate [.text ", "] (xs.map ps)) := by
  show Writes (writeFragmentWith (Painter.upTo n) fr (.within (xs.map f))) _
  cases xs with
  | nil => exact absurd rfl nonempty
  | cons x rest => exact fr.writeJoined_writes (by decide) each

theorem value_row_writes {a : Value} {ps : List Piece} (inner : Writes ((Painter.upTo n).value fr a) ps) :
    Writes ((Painter.upTo (n + 1)).value fr (.fragment (.template "(?)" [a] "")))
      ([Piece.text "("] ++ ps ++ [Piece.text ")"]) := by
  show Writes (writeTokens (Painter.upTo n) fr (tokenize "(?)") [a]) _
  rw [tokenize_row, writeTokens, writeTokens, writeTokens, writeTokens]
  simpa using (fr.write_writes (by decide)).seq (inner.seq ((fr.write_writes (by decide)).seq Writes.pure))

/-- The equalities of the key columns with one instance's key values, joined by `AND`. -/
theorem writeTokens_equalities (inst : Value) :
    ∀ (pks : List Column), pks ≠ [] → (∀ pk ∈ pks, (pk.getValue inst).isParam = true) →
      Writes (writeTokens (Painter.upTo (n + 1)) fr
          (List.intercalate [.text " AND "] (pks.map fun _ => [.positional, .text " = ", .positional]))
          (pks.map fun pk => [pk.ref, pk.getValue inst]).flatten)
        (List.intercalate [.text " AND "]
          (pks.map fun pk => [.text (fr.columnText pk.name), .text " = ", .value (pk.getValue inst)]))
  | [], absent, _ => absurd rfl absent
  | [pk], _, params => by
    simp only [List.map_cons, List.map_nil, List.intercalate_singleton, List.flatten_cons, List.flatten_nil,
      List.append_nil]
    rw [writeTokens, writeTokens, writeTokens, writeTokens]
    simpa using (value_ref_writes fr n pk).seq ((fr.write_writes (by decide)).seq
      ((value_param_writes fr n (params pk (by simp))).seq Writes.pure))
  | pk :: pk' :: more, _, params => by
    have later := writeTokens_equalities inst (pk' :: more) (List.cons_ne_nil _ _)
      fun q mem => params q (List.mem_cons_of_mem pk mem)
    simp only [List.map_cons, List.flatten_cons] at later ⊢
    simp only [List.intercalate_cons_cons, List.cons_append, List.nil_append]
    rw [writeTokens, writeTokens, writeTokens, writeTokens]
    simpa using (value_ref_writes fr n pk).seq ((fr.write_writes (by decide)).seq
      ((value_param_writes fr n (params pk (by simp))).seq ((fr.write_writes (by decide)).seq later)))

/-- One key column among the values of several instances. -/
theorem writeFragment_in (pk : Column) {insts : List Value} (nonempty : insts ≠ [])
    (params : ∀ i ∈ insts, (pk.getValue i).isParam = true) :
    Writes (writeFragmentWith (Painter.upTo (n + 2)) fr
        (.template "? IN (?)" [pk.ref, .fragment (.within (insts.map pk.getValue))] ""))
      ([Piece.text (fr.columnText pk.name), Piece.text " IN ("] ++
        List.intercalate [Piece.text ", "] (insts.map fun i => [Piece.value (pk.getValue i)]) ++ [Piece.text ")"]) := by
  have values : Writes ((Painter.upTo (n + 2)).value fr (.fragment (.within (insts.map pk.getValue))))
      (List.intercalate [Piece.text ", "] (insts.map fun i => [Piece.value (pk.getValue i)])) :=
    value_within_writes fr (n + 1) nonempty fun i member => value_param_writes fr n (params i member)
  show Writes (writeTokens (Painter.upTo (n + 2)) fr (tokenize "? IN (?)") _) _
  rw [tokenize_in, writeTokens, writeTokens, writeTokens, writeTokens, writeTokens]
  have column : Writes ((Painter.upTo (n + 2)).value fr pk.ref) _ := value_ref_writes fr (n + 1) pk
  simpa using column.seq ((fr.write_writes (by decide)).seq
    (values.seq ((fr.write_writes (by decide)).seq Writes.pure)))

/-- The row of the key columns among the rows of the instances' key values. -/
theorem writeFragment_row_in {pks : List Column} {insts : List Value} (keyed : pks ≠ []) (nonempty : insts ≠ [])
    (params : ∀ i ∈ insts, ∀ pk ∈ pks, (pk.getValue i).isParam = true) :
    Writes (writeFragmentWith (Painter.upTo (n + 4)) fr
        (.template "(?) IN (?)" [.fragment (.within (pks.map Column.ref)),
          .fragment (.within (insts.map fun i =>
            .fragment (.template "(?)" [.fragment (.within (pks.map (·.getValue i)))] "")))] ""))
      ([Piece.text "("] ++
        List.intercalate [Piece.text ", "] (pks.map fun pk => [Piece.text (fr.columnText pk.name)]) ++
        [Piece.text ") IN ("] ++
        List.intercalate [Piece.text ", "] (insts.map fun i =>
          [Piece.text "("] ++ List.intercalate [Piece.text ", "] (pks.map fun pk => [Piece.value (pk.getValue i)]) ++
            [Piece.text ")"]) ++
        [Piece.text ")"]) := by
  have columns : Writes ((Painter.upTo (n + 4)).value fr (.fragment (.within (pks.map Column.ref))))
      (List.intercalate [Piece.text ", "] (pks.map fun pk => [Piece.text (fr.columnText pk.name)])) :=
    value_within_writes fr (n + 3) keyed fun pk _ => value_ref_writes fr (n + 2) pk
  have rows : Writes ((Painter.upTo (n + 4)).value fr (.fragment (.within (insts.map fun i =>
        .fragment (.template "(?)" [.fragment (.within (pks.map (·.getValue i)))] "")))))
      (List.intercalate [Piece.text ", "] (insts.map fun i =>
        [Piece.text "("] ++ List.intercalate [Piece.text ", "] (pks.map fun pk => [Piece.value (pk.getValue i)]) ++
          [Piece.text ")"])) :=
    value_within_writes fr (n + 3) nonempty fun i member => value_row_writes fr (n + 2)
      (value_within_writes fr (n + 1) keyed fun pk mine => value_param_writes fr n (params i member pk mine))
  show Writes (writeTokens (Painter.upTo (n + 4)) fr (tokenize "(?) IN (?)") _) _
  rw [tokenize_row_in, writeTokens, writeTokens, writeTokens, writeTokens, writeTokens, writeTokens]
  simpa using (fr.write_writes (by decide)).seq (columns.seq ((fr.write_writes (by decide)).seq
    (rows.seq ((fr.write_writes (by decide)).seq Writes.pure))))

end Painting

/-- The pieces of the test that the key columns hold the key of one of the instances: for a
single instance, each key column equal to its value, joined by `AND`; for several and one key
column, the column among the values; for several and more key columns, the row of the columns
among the rows of values. -/
def keyTestPieces (fr : Frame) (pks : List Column) (insts : List Value) (several : Bool) : List Piece :=
  let column := fun (pk : Column) => Piece.text (fr.columnText pk.name)
  let param := fun (inst : Value) (pk : Column) => Piece.value (pk.getValue inst)
  if several then
    match pks with
    | [pk] => [column pk, .text " IN ("] ++ List.intercalate [.text ", "] (insts.map fun i => [param i pk]) ++
        [.text ")"]
    | _ => [.text "("] ++ List.intercalate [.text ", "] (pks.map fun pk => [column pk]) ++ [.text ") IN ("] ++
        List.intercalate [.text ", "] (insts.map fun i =>
          [.text "("] ++ List.intercalate [.text ", "] (pks.map fun pk => [param i pk]) ++ [.text ")"]) ++
        [.text ")"]
  else
    List.intercalate [.text " AND "] (pks.map fun pk => [column pk, .text " = ", param (insts.headD .none) pk])

/-! ## The condition on the keys -/

section Converting

variable {α β ε : Type} {f : α → Except ε β}

/-- Converting every item gives the items' values when each conversion does. -/
theorem mapM_ok_of_forall {g : α → β} : ∀ {xs : List α}, (∀ x ∈ xs, f x = .ok (g x)) → xs.mapM f = .ok (xs.map g)
  | [], _ => rfl
  | x :: xs, each => by
    rw [List.mapM_cons, each x (by simp), mapM_ok_of_forall fun y mem => each y (List.mem_cons_of_mem x mem)]
    rfl

/-- Converting every item stops with the fault of the first item whose conversion fails. -/
theorem mapM_error_of_first {e : ε} {before after : List α} {x : α} (fine : ∀ y ∈ before, ∃ b, f y = .ok b)
    (stopped : f x = .error e) : (before ++ x :: after).mapM f = .error e := by
  induction before with
  | nil =>
    rw [List.nil_append, List.mapM_cons, stopped]
    rfl
  | cons y before ih =>
    obtain ⟨b, converted⟩ := fine y (by simp)
    rw [List.cons_append, List.mapM_cons, converted, ih fun z mem => fine z (List.mem_cons_of_mem y mem)]
    rfl

/-- The first item of a list that has a property, with the items before it. -/
theorem exists_first {P : α → Prop} : ∀ {xs : List α}, (∃ x ∈ xs, P x) →
    ∃ before x after, xs = before ++ x :: after ∧ (∀ y ∈ before, ¬ P y) ∧ P x
  | [], found => by simp at found
  | x :: xs, found => by
    by_cases first : P x
    · exact ⟨[], x, xs, rfl, by simp, first⟩
    · have later : ∃ y ∈ xs, P y := by
        obtain ⟨y, mem, hy⟩ := found
        rcases List.mem_cons.1 mem with rfl | mem
        · exact absurd hy first
        · exact ⟨y, mem, hy⟩
      obtain ⟨before, y, after, split, fine, hy⟩ := exists_first later
      refine ⟨x :: before, y, after, by rw [split]; rfl, ?_, hy⟩
      intro z mem
      rcases List.mem_cons.1 mem with rfl | mem
      · exact first
      · exact fine z mem

end Converting

namespace Query

variable {q : Query} {s : TableSchema}

theorem pkCondition_without_model (unmodelled : q.schema = none) :
    q.pkCondition = .error (.configuration "where_pk requires a model") := by
  unfold Query.pkCondition
  rw [unmodelled]
  rfl

/-- A query bound to one instance, not to a list, has that instance alone. -/
theorem instances_single (single : q.boundList = false) (bound : q.instances ≠ []) : ∃ inst, q.instances = [inst] := by
  cases model : q.model with
  | none => simp [Query.instances, model] at bound
  | some v => cases v <;> simp_all [Query.instances, Query.boundList]

/-- A key condition that cannot be written stops the WHERE clause before it writes anything. -/
theorem writeWhere_of_pkCondition_error {e : Fault} (keyed : q.wherePk = true) (refused : q.pkCondition = .error e)
    (p : Painter) (fr : Frame) (required : Bool) (pieces : Array Piece) :
    (q.writeWhere p fr required).run.run pieces = (.error e, pieces) := by
  unfold Query.writeWhere
  simp only [keyed, refused, if_true]
  rfl

variable (schema : q.schema = some s)
include schema

theorem pkCondition_without_key (keyless : s.pks = []) :
    q.pkCondition = .error (.configuration ("table " ++ displayString s.name ++ " does not have a primary key")) := by
  unfold Query.pkCondition
  simp only [schema, keyless, List.isEmpty_nil, if_true]
  rfl

theorem pkCondition_without_instance (keyed : s.pks ≠ []) (unbound : q.instances = []) :
    q.pkCondition = .error (.configuration "where_pk requires a model instance (or a list of instances)") := by
  unfold Query.pkCondition
  simp only [schema, List.isEmpty_eq_false_iff.2 keyed, unbound, List.isEmpty_nil, Bool.false_eq_true, if_false,
    if_true]
  rfl

/-- The key condition fails at the first instance with an empty key, naming its class. -/
theorem pkCondition_empty_key (keyed : s.pks ≠ []) (empty : ∃ inst ∈ q.instances, ∃ pk ∈ s.pks, pk.getValue inst = .none) :
    ∃ before inst after, q.instances = before ++ inst :: after ∧
      (∀ i ∈ before, ∀ pk ∈ s.pks, pk.getValue i ≠ .none) ∧ (∃ pk ∈ s.pks, pk.getValue inst = .none) ∧
      q.pkCondition = .error (.configuration ("where_pk: " ++ inst.typeName ++ " has an empty primary key")) := by
  obtain ⟨before, inst, after, split, fine, hollow⟩ := exists_first empty
  have bound : q.instances ≠ [] := by simp [split]
  refine ⟨before, inst, after, split, fun i mem pk mine absent => fine i mem ⟨pk, mine, absent⟩, hollow, ?_⟩
  unfold Query.pkCondition
  simp only [schema, List.isEmpty_eq_false_iff.2 keyed, List.isEmpty_eq_false_iff.2 bound, Bool.false_eq_true,
    if_false]
  rw [split, mapM_error_of_first]
  · rfl
  · -- the instances before it have full keys, so each gives its key
    intro i mem
    refine ⟨s.pks.map fun x => x.getValue i, ?_⟩
    rw [if_neg]
    · rfl
    · intro anyEmpty
      obtain ⟨pk, mine, absent⟩ := List.mem_map.1 ((any_none_iff _).1 anyEmpty)
      exact fine i mem ⟨pk, mine, absent⟩
  · rw [if_pos]
    · rfl
    · obtain ⟨pk, mine, absent⟩ := hollow
      exact (any_none_iff _).2 (List.mem_map.2 ⟨pk, mine, absent⟩)

theorem pkCondition_writes (keyed : s.pks ≠ []) (bound : q.instances ≠ [])
    (filled : ∀ inst ∈ q.instances, ∀ pk ∈ s.pks, pk.getValue inst ≠ .none) :
    ∃ f, q.pkCondition = .ok f ∧ ∀ (fr : Frame) (n : Nat),
      (∀ inst ∈ q.instances, ∀ pk ∈ s.pks, (pk.getValue inst).isParam = true) →
        Writes (writeFragmentWith (Painter.upTo (n + 4)) fr f) (keyTestPieces fr s.pks q.instances q.boundList) := by
  unfold Query.pkCondition
  simp only [schema, List.isEmpty_eq_false_iff.2 keyed, List.isEmpty_eq_false_iff.2 bound, Bool.false_eq_true,
    if_false]
  rw [mapM_ok_of_forall (g := fun inst => s.pks.map fun x => x.getValue inst)]
  · cases several : q.boundList
    · obtain ⟨inst, one⟩ := instances_single several bound
      refine ⟨_, rfl, fun fr n params => ?_⟩
      show Writes (writeTokens _ fr (tokenize _) _) _
      rw [tokenize_equalities (by simpa using keyed)]
      have written := writeTokens_equalities fr (n + 3) inst s.pks keyed fun pk mine => params inst (by simp [one]) pk mine
      simp only [keyTestPieces, one, List.headD_cons, Bool.false_eq_true, if_false, List.map_map, Function.comp_def,
        List.map_cons, List.map_nil, List.head?_cons, Option.getD_some, List.zip_map', List.flatMap_def,
        Column.ref] at written ⊢
      exact written
    · cases shape : s.pks with
      | nil => exact absurd shape keyed
      | cons pk rest =>
        cases rest with
        | nil =>
          refine ⟨_, rfl, fun fr n params => ?_⟩
          have written := writeFragment_in fr (n + 2) pk bound fun i mem => params i mem pk (by simp)
          simp only [keyTestPieces, if_true, List.map_map, Function.comp_def, List.map_cons, List.map_nil,
            List.head?_cons, Option.getD_some] at written ⊢
          exact written
        | cons pk' more =>
          refine ⟨_, rfl, fun fr n params => ?_⟩
          have written := writeFragment_row_in fr n (List.cons_ne_nil pk (pk' :: more)) bound params
          simp only [keyTestPieces, if_true, List.map_map, Function.comp_def] at written ⊢
          exact written
  · -- every instance has a full key, so each gives its key
    intro inst mem
    rw [if_neg]
    · rfl
    · intro anyEmpty
      obtain ⟨pk, mine, absent⟩ := List.mem_map.1 ((any_none_iff _).1 anyEmpty)
      exact filled inst mem pk mine absent

end Query

/-- The values of the key test are the instances' key values, instance by instance and in the
order of the key columns. -/
theorem keyTestPieces_values (fr : Frame) {pks : List Column} {insts : List Value} {several : Bool}
    (keyed : pks ≠ []) (single : several = false → ∃ inst, insts = [inst]) :
    (keyTestPieces fr pks insts several).filterMap Piece.value? = insts.flatMap fun i => pks.map (·.getValue i) := by
  cases several with
  | false =>
    obtain ⟨inst, rfl⟩ := single rfl
    simp only [keyTestPieces, Bool.false_eq_true, if_false, List.headD_cons, filterMap_intercalate_text,
      List.flatMap_map, List.filterMap_cons, List.filterMap_nil, Piece.value?, List.flatMap_singleton]
    exact (List.map_eq_flatMap).symm
  | true =>
    simp only [keyTestPieces, if_true]
    split
    · simp only [List.filterMap_cons, List.filterMap_append, List.filterMap_nil, filterMap_intercalate_text,
        List.flatMap_map, Piece.value?]
      simp [List.map_eq_flatMap]
    · simp only [List.filterMap_cons, List.filterMap_append, List.filterMap_nil, filterMap_intercalate_text,
        List.flatMap_map, Piece.value?]
      simp [List.map_eq_flatMap]

/-! ## What the key test is true of -/

section Meaning

variable {σ : Type} (cell : String → σ) (eq : σ → Value → Prop)

/-- What a condition written as pieces is true of, read by SQL's rules for the forms a key test
uses: a column equal to a parameter; two conditions joined by `AND`, true when both are; a column
`IN` a list of parameters, true when it equals one of them; and a row of columns `IN` a list of
rows of parameters of its size, true when each column equals its component in one of the rows.
`cell` gives what a row holds under a column's text, and `eq` says when a held value equals the
value bound for a parameter, as the engine compares them. -/
inductive KeyTestMeans : List Piece → Prop → Prop
  | equal (col : String) (v : Value) :
      KeyTestMeans [Piece.text col, Piece.text " = ", Piece.value v] (eq (cell col) v)
  | and {ps qs : List Piece} {P Q : Prop} (left : KeyTestMeans ps P) (right : KeyTestMeans qs Q) :
      KeyTestMeans (ps ++ [Piece.text " AND "] ++ qs) (P ∧ Q)
  | among (col : String) (vs : List Value) :
      KeyTestMeans ([Piece.text col, Piece.text " IN ("] ++
          List.intercalate [Piece.text ", "] (vs.map fun v => [Piece.value v]) ++ [Piece.text ")"])
        (∃ v ∈ vs, eq (cell col) v)
  | rowAmong (cols : List String) (rows : List (List Value)) (sized : ∀ r ∈ rows, r.length = cols.length) :
      KeyTestMeans ([Piece.text "("] ++ List.intercalate [Piece.text ", "] (cols.map fun c => [Piece.text c]) ++
          [Piece.text ") IN ("] ++
          List.intercalate [Piece.text ", "] (rows.map fun r =>
            [Piece.text "("] ++ List.intercalate [Piece.text ", "] (r.map fun v => [Piece.value v]) ++ [Piece.text ")"]) ++
          [Piece.text ")"])
        (∃ r ∈ rows, List.Forall₂ (fun c v => eq (cell c) v) cols r)

/-- Equalities of columns with values joined by `AND` are true of a row when every equality is. -/
theorem KeyTestMeans.equalities {α : Type} (col : α → String) (val : α → Value) :
    ∀ {xs : List α}, xs ≠ [] →
      ∃ P, KeyTestMeans cell eq
          (List.intercalate [Piece.text " AND "] (xs.map fun x => [Piece.text (col x), Piece.text " = ", Piece.value (val x)]))
          P ∧ (P ↔ ∀ x ∈ xs, eq (cell (col x)) (val x))
  | [], nonempty => absurd rfl nonempty
  | [x], _ => ⟨_, .equal (col x) (val x), by simp⟩
  | x :: y :: rest, _ => by
    obtain ⟨P, rest_means, rest_iff⟩ := equalities col val (List.cons_ne_nil y rest)
    refine ⟨eq (cell (col x)) (val x) ∧ P, ?_, ?_⟩
    · rw [List.map_cons, List.map_cons, List.intercalate_cons_cons]
      exact .and (.equal (col x) (val x)) rest_means
    · rw [rest_iff]
      simp only [List.forall_mem_cons]

/-- The key test of the instances is true of a row exactly when, for one of the instances, every
key column holds a value equal to the instance's key value there. -/
theorem keyTestPieces_means (fr : Frame) {pks : List Column} {insts : List Value} {several : Bool}
    (keyed : pks ≠ []) (single : several = false → ∃ inst, insts = [inst]) :
    ∃ P, KeyTestMeans cell eq (keyTestPieces fr pks insts several) P ∧
      (P ↔ ∃ inst ∈ insts, ∀ pk ∈ pks, eq (cell (fr.columnText pk.name)) (pk.getValue inst)) := by
  cases several with
  | false =>
    obtain ⟨inst, rfl⟩ := single rfl
    obtain ⟨P, means, iff⟩ := KeyTestMeans.equalities cell eq (fun pk : Column => fr.columnText pk.name)
      (·.getValue inst) keyed
    exact ⟨P, means, by simpa using iff⟩
  | true =>
    simp only [keyTestPieces, if_true]
    split
    next _ pk =>
      have means : KeyTestMeans cell eq _ _ := .among (fr.columnText pk.name) (insts.map pk.getValue)
      rw [List.map_map] at means
      exact ⟨_, means, by simp⟩
    next =>
      have means : KeyTestMeans cell eq _ _ := .rowAmong (pks.map fun pk => fr.columnText pk.name)
        (insts.map fun inst => pks.map (·.getValue inst)) (by simp)
      simp only [List.map_map, Function.comp_def] at means
      exact ⟨_, means, by simp [List.forall₂_map_left_iff, List.forall₂_map_right_iff, List.forall₂_same]⟩

end Meaning

/-- The key condition of a query: it is refused, with the reason, when the query has no model, the
model no key, no instance is bound, or an instance has an empty key component, and a refused
condition stops the WHERE clause with nothing written; otherwise it writes the key test of the
bound instances, whose parameters are their key values, instance by instance and in the order of
the key columns, and which is true of a row exactly when, for one of the instances, every key
column holds a value equal to the value bound for the instance's key value there. -/
theorem key_condition_tests_bound_keys (q : Query) :
    (∀ e p fr required pieces, q.wherePk = true → q.pkCondition = .error e →
      (q.writeWhere p fr required).run.run pieces = (.error e, pieces)) ∧
    (q.schema = none → q.pkCondition = .error (.configuration "where_pk requires a model")) ∧
    ∀ s, q.schema = some s →
      (s.pks = [] →
        q.pkCondition = .error (.configuration ("table " ++ displayString s.name ++ " does not have a primary key"))) ∧
      (s.pks ≠ [] → q.instances = [] →
        q.pkCondition = .error (.configuration "where_pk requires a model instance (or a list of instances)")) ∧
      (s.pks ≠ [] → (∃ inst ∈ q.instances, ∃ pk ∈ s.pks, pk.getValue inst = .none) →
        ∃ before inst after, q.instances = before ++ inst :: after ∧
          (∀ i ∈ before, ∀ pk ∈ s.pks, pk.getValue i ≠ .none) ∧ (∃ pk ∈ s.pks, pk.getValue inst = .none) ∧
          q.pkCondition = .error (.configuration ("where_pk: " ++ inst.typeName ++ " has an empty primary key"))) ∧
      (s.pks ≠ [] → q.instances ≠ [] → (∀ inst ∈ q.instances, ∀ pk ∈ s.pks, pk.getValue inst ≠ .none) →
        ∃ f, q.pkCondition = .ok f ∧ ∀ (fr : Frame) (n : Nat),
          (∀ inst ∈ q.instances, ∀ pk ∈ s.pks, (pk.getValue inst).isParam = true) →
            Writes (writeFragmentWith (Painter.upTo (n + 4)) fr f) (keyTestPieces fr s.pks q.instances q.boundList) ∧
            (keyTestPieces fr s.pks q.instances q.boundList).filterMap Piece.value? =
              q.instances.flatMap (fun inst => s.pks.map (·.getValue inst)) ∧
            ∀ {σ : Type} (cell : String → σ) (eq : σ → Value → Prop),
              ∃ P, KeyTestMeans cell eq (keyTestPieces fr s.pks q.instances q.boundList) P ∧
                (P ↔ ∃ inst ∈ q.instances, ∀ pk ∈ s.pks, eq (cell (fr.columnText pk.name)) (pk.getValue inst))) := by
  refine ⟨fun e p fr required pieces keyed refused => Query.writeWhere_of_pkCondition_error keyed refused p fr required pieces,
    Query.pkCondition_without_model, fun s schema => ⟨Query.pkCondition_without_key schema,
      Query.pkCondition_without_instance schema, Query.pkCondition_empty_key schema, fun keyed bound filled => ?_⟩⟩
  obtain ⟨f, condition, writes⟩ := Query.pkCondition_writes schema keyed bound filled
  have single : q.boundList = false → ∃ inst, q.instances = [inst] := fun single =>
    Query.instances_single single bound
  exact ⟨f, condition, fun fr n params => ⟨writes fr n params, keyTestPieces_values fr keyed single,
    fun cell eq => keyTestPieces_means cell eq fr keyed single⟩⟩

/-- The class `Event`, keyed by the datetime `at`. -/
def eventRef : ClassRef := ⟨3, "Event", .table⟩

/-- A key column stored under its own attribute name. -/
def keyColumn (name : String) : Column := { (default : Column) with name, path := [name], pk := true }

def eventTable : TableSchema :=
  { cls := eventRef, name := "events", aliasName := "event", columns := [keyColumn "at"], relations := [] }

/-- Noon on the first of January 2024, in UTC. -/
def noonUtc : Calendar.DateTime := ⟨⟨2024, 1, 1⟩, ⟨12, 0, 0, 0, some 0⟩⟩

/-- The same instant as `noonUtc`, at one o'clock in UTC+1. -/
def oneInUtcPlusOne : Calendar.DateTime := ⟨⟨2024, 1, 1⟩, ⟨13, 0, 0, 0, some 3600000000⟩⟩

/-- Whether a value stored in a column of affinity `aff` equals the value SQLite binds for a key
value, as the engine compares a column with a parameter. -/
def sqliteKeyEquals (aff : Database.Affinity) (stored : Database.Datum) (v : Value) : Prop :=
  ∃ d, (Dialect.sqlite.convertParam v >>= bindParam 1) = .ok d ∧
    Database.compareOperands (some aff) .binary stored d = some .eq

/-- The key test compares the keys as SQLite binds them, and SQLite binds an aware datetime as its
text: an event stored at noon UTC is not found by an instance holding the same instant at one
o'clock in UTC+1, though the two keys are equal, whatever the affinity of the key column. -/
theorem equal_instants_bound_as_different_texts :
    Value.same (.datetime noonUtc) (.datetime oneInUtcPlusOne) = true ∧
      ∃ stored, (Dialect.sqlite.convertParam (.datetime noonUtc) >>= bindParam 1) = .ok stored ∧
        ∀ (aff : Database.Affinity) (fr : Frame), ∃ P,
          KeyTestMeans (fun _ => stored) (sqliteKeyEquals aff)
            (keyTestPieces fr eventTable.pks [.object eventRef [("at", some (.datetime oneInUtcPlusOne))]] false) P ∧
            ¬ P := by
  have early_bound : (Dialect.sqlite.convertParam (.datetime noonUtc) >>= bindParam 1) =
      .ok (.ofString "2024-01-01 12:00:00+00:00") := rfl
  have late_bound : (Dialect.sqlite.convertParam (.datetime oneInUtcPlusOne) >>= bindParam 1) =
      .ok (.ofString "2024-01-01 13:00:00+01:00") := rfl
  refine ⟨?_, _, early_bound, fun aff fr => ?_⟩
  · simp only [noonUtc, oneInUtcPlusOne, Value.same, Value.depth, Value.sameUpTo, Value.numView?]
    decide
  obtain ⟨P, means, iff⟩ := keyTestPieces_means (fun _ => .ofString "2024-01-01 12:00:00+00:00")
    (sqliteKeyEquals aff) fr (List.cons_ne_nil _ _) fun _ => ⟨_, rfl⟩
  refine ⟨P, means, fun holds => ?_⟩
  obtain ⟨_, found, equal⟩ := iff.1 holds
  rw [List.mem_singleton] at found
  subst found
  obtain ⟨d, bound, compared⟩ := equal (keyColumn "at") (List.mem_singleton_self _)
  have late_text : d = .ofString "2024-01-01 13:00:00+01:00" := by
    have read : (keyColumn "at").getValue (.object eventRef [("at", some (.datetime oneInUtcPlusOne))]) =
        .datetime oneInUtcPlusOne := rfl
    rw [read, late_bound] at bound
    exact (Except.ok.inj bound).symm
  subst late_text
  revert compared
  cases aff <;> decide +kernel

/-- The class `Shelf`, keyed by its room and its place in the room. -/
def shelfRef : ClassRef := ⟨2, "Shelf", .table⟩

def shelfTable : TableSchema :=
  { cls := shelfRef, name := "shelves", aliasName := "shelf", columns := [keyColumn "room", keyColumn "place"],
    relations := [] }

def shelf (room place : Int) : Value := .object shelfRef [("room", some (.int room)), ("place", some (.int place))]

/-- A selection of two shelves of one room by key. -/
def twoShelves : Query :=
  { Query.new .select with schema := some shelfTable, model := some (.list [shelf 1 2, shelf 1 3]), wherePk := true }

theorem two_shelves_tested_by_key_rows :
    ∃ f, twoShelves.pkCondition = .ok f ∧ ∀ (fr : Frame) (n : Nat),
      Writes (writeFragmentWith (Painter.upTo (n + 4)) fr f)
          (keyTestPieces fr shelfTable.pks twoShelves.instances twoShelves.boundList) ∧
        (keyTestPieces fr shelfTable.pks twoShelves.instances twoShelves.boundList).filterMap Piece.value? =
          [.int 1, .int 2, .int 1, .int 3] ∧
        ∀ {σ : Type} (cell : String → σ) (eq : σ → Value → Prop), ∃ P,
          KeyTestMeans cell eq (keyTestPieces fr shelfTable.pks twoShelves.instances twoShelves.boundList) P ∧
            (P ↔ (eq (cell (fr.columnText "room")) (.int 1) ∧ eq (cell (fr.columnText "place")) (.int 2)) ∨
              (eq (cell (fr.columnText "room")) (.int 1) ∧ eq (cell (fr.columnText "place")) (.int 3))) := by
  have filled : ∀ inst ∈ twoShelves.instances, ∀ pk ∈ shelfTable.pks, pk.getValue inst ≠ .none := by
    simp [twoShelves, shelfTable, Query.instances, TableSchema.pks, keyColumn, shelf, Column.getValue, Column.attributeOf, List.lookup]
  obtain ⟨f, condition, tests⟩ := ((key_condition_tests_bound_keys twoShelves).2.2 shelfTable rfl).2.2.2
    (List.cons_ne_nil _ _) (List.cons_ne_nil _ _) filled
  refine ⟨f, condition, fun fr n => ?_⟩
  have params : ∀ inst ∈ twoShelves.instances, ∀ pk ∈ shelfTable.pks, (pk.getValue inst).isParam = true := by
    simp [twoShelves, shelfTable, Query.instances, TableSchema.pks, keyColumn, shelf, Column.getValue, Column.attributeOf, List.lookup,
      Value.isParam]
  obtain ⟨writes, values, means⟩ := tests fr n params
  refine ⟨writes, values.trans rfl, fun cell eq => ?_⟩
  obtain ⟨P, reads, iff⟩ := means cell eq
  refine ⟨P, reads, iff.trans ?_⟩
  simp [twoShelves, shelfTable, Query.instances, TableSchema.pks, keyColumn, shelf, Column.getValue, Column.attributeOf,
    List.lookup]

end SqlMapper
