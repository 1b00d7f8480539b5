import Mathlib
import SqlMapper.Proofs.Except
import SqlMapper.Query.Render

/-!
# Bound parameters and inline literals

A statement is put together from the pieces its writer emits, in one of two
modes (`Statement.build`): with its values bound as parameters, or written
inline as literals. Both modes read the same pieces, so the two texts agree
segment by segment. Seen as text segments and parameter slots, the bound text
has one slot for each parameter, and the inline text fills each slot with the
literal of its value.

Where the driver marks parameters `%s`, the bound text also reads back the way
the driver reads it: `%%` is a percent sign and `%s` a slot. Whatever percent
signs the text holds, reading it gives back exactly the segments, with no other
directive.
-/

set_option autoImplicit false

namespace SqlMapper

/-- A segment of statement text: text as written, or the slot of one parameter. -/
inductive Segment where
  | text (s : String)
  | slot
  deriving DecidableEq, Repr

namespace Segment

/-- The text with its values bound: each text escaped for the dialect's markers,
each slot the marker. -/
def bound (d : Dialect) : List Segment → String
  | [] => ""
  | .text s :: rest => d.escapeText s ++ bound d rest
  | .slot :: rest => d.placeholder ++ bound d rest

/-- The text with its slots filled, in order, by literals. -/
def fill : List Segment → List String → String
  | [], _ => ""
  | .text s :: rest, lits => s ++ fill rest lits
  | .slot :: rest, lit :: lits => lit ++ fill rest lits
  | .slot :: rest, [] => fill rest []

/-- What a reader of the text sees: its characters, and `none` where a slot stands. -/
def marks : List Segment → List (Option Char)
  | [] => []
  | .text s :: rest => s.toList.map some ++ marks rest
  | .slot :: rest => none :: marks rest

end Segment

/-- Statement text as a driver that marks parameters `%s` reads it: `%%` is a
percent sign, `%s` the next parameter (`none`), and any other `%` a directive it
refuses. -/
def readFormatMarks : List Char → Option (List (Option Char))
  | [] => some []
  | '%' :: '%' :: rest => (readFormatMarks rest).map (some '%' :: ·)
  | '%' :: 's' :: rest => (readFormatMarks rest).map (none :: ·)
  | '%' :: _ => none
  | c :: rest => (readFormatMarks rest).map (some c :: ·)

theorem readFormatMarks_percent (rest : List Char) :
    readFormatMarks ('%' :: '%' :: rest) = (readFormatMarks rest).map (some '%' :: ·) := by
  simp [readFormatMarks]

theorem readFormatMarks_slot (rest : List Char) :
    readFormatMarks ('%' :: 's' :: rest) = (readFormatMarks rest).map (none :: ·) := by
  simp [readFormatMarks]

theorem readFormatMarks_plain {c : Char} (plain : c ≠ '%') (rest : List Char) :
    readFormatMarks (c :: rest) = (readFormatMarks rest).map (some c :: ·) := by
  simp [readFormatMarks, plain]

/-- Characters with their percent signs doubled read back as themselves, in front of
any text. -/
theorem readFormatMarks_escaped (cs rest : List Char) :
    readFormatMarks (cs.flatMap (fun c => if c == '%' then ['%', '%'] else [c]) ++ rest) =
      (readFormatMarks rest).map (cs.map some ++ ·) := by
  induction cs with
  | nil => simp
  | cons c cs ih =>
    rw [List.flatMap_cons, List.append_assoc]
    by_cases percent : c = '%'
    · subst percent
      rw [if_pos (beq_self_eq_true '%'), List.cons_append, List.cons_append, List.nil_append,
        readFormatMarks_percent, ih, Option.map_map]
      rfl
    · rw [if_neg (by simpa using percent), List.cons_append, List.nil_append,
        readFormatMarks_plain percent, ih, Option.map_map]
      rfl

namespace Dialect

variable {d : Dialect}

theorem escapeText_toList_of_format (format : d.paramStyle = .format) (s : String) :
    (d.escapeText s).toList = s.toList.flatMap fun c => if c == '%' then ['%', '%'] else [c] := by
  simp [escapeText, format]

theorem placeholder_of_format (format : d.paramStyle = .format) : d.placeholder = "%s" := by
  simp [placeholder, format]

end Dialect

/-- Bound for a driver that marks parameters `%s`, segments read back as themselves. -/
theorem readFormatMarks_bound {d : Dialect} (format : d.paramStyle = .format) (segs : List Segment) :
    readFormatMarks (Segment.bound d segs).toList = some (Segment.marks segs) := by
  induction segs with
  | nil => rfl
  | cons seg rest ih =>
    cases seg with
    | text s =>
      rw [Segment.bound, String.toList_append, Dialect.escapeText_toList_of_format format,
        readFormatMarks_escaped, ih]
      rfl
    | slot =>
      rw [Segment.bound, String.toList_append, Dialect.placeholder_of_format format]
      change readFormatMarks ('%' :: 's' :: (Segment.bound d rest).toList) = _
      rw [readFormatMarks_slot, ih]
      rfl

namespace Piece

/-- The segment a piece stands in. -/
def segment : Piece → Segment
  | .text s => .text s
  | .value _ => .slot

/-- The value a piece holds, if it holds one. -/
def value? : Piece → Option Value
  | .text _ => none
  | .value v => some v

/-- Each value among the pieces stands in one slot. -/
theorem count_slots (pieces : List Piece) :
    (Segment.marks (pieces.map segment)).count none = (pieces.filterMap value?).length := by
  induction pieces with
  | nil => rfl
  | cons piece rest ih =>
    cases piece with
    | text s =>
      have noSlot : (s.toList.map some).count none = 0 := List.count_eq_zero.2 (by simp)
      simp only [List.map_cons, segment, Segment.marks, List.count_append, noSlot, ih,
        List.filterMap_cons, value?, Nat.zero_add]
    | value v => simp [segment, value?, Segment.marks, ih]

end Piece

namespace Statement

variable (d : Dialect)

/-- Bound, the pieces add their escaped text and markers to the text, and the
values they hold, converted in order, to the parameters. -/
theorem foldlM_add_bound (pieces : List Piece) (st : Statement) :
    pieces.foldlM (add d false) st =
      (fun ps => { text := st.text ++ Segment.bound d (pieces.map Piece.segment),
                   params := st.params ++ ps.toArray }) <$>
        (pieces.filterMap Piece.value?).mapM d.convertParam := by
  induction pieces generalizing st with
  | nil => simp [Segment.bound]
  | cons piece rest ih =>
    cases piece with
    | text s =>
      simp only [List.foldlM_cons, add, pure_bind, ih, Piece.segment, Piece.value?,
        List.filterMap_cons, List.map_cons, Segment.bound, String.append_assoc]
      rfl
    | value v =>
      simp only [List.foldlM_cons, add, Piece.segment, Piece.value?, List.filterMap_cons,
        List.map_cons, Segment.bound, List.mapM_cons]
      cases d.convertParam v with
      | error f => rfl
      | ok p =>
        simp only [ih]
        cases (rest.filterMap Piece.value?).mapM d.convertParam with
        | error f => rfl
        | ok ps =>
          show Except.ok _ = Except.ok _
          simp [String.append_assoc]

/-- Inline, the pieces add their text as written and the literals of the values
they hold, in order. -/
theorem foldlM_add_inline (pieces : List Piece) (st : Statement) :
    pieces.foldlM (add d true) st =
      (fun lits => { st with text := st.text ++ Segment.fill (pieces.map Piece.segment) lits }) <$>
        (pieces.filterMap Piece.value?).mapM d.quoteLiteral := by
  induction pieces generalizing st with
  | nil => simp [Segment.fill]
  | cons piece rest ih =>
    cases piece with
    | text s =>
      simp only [List.foldlM_cons, add, pure_bind, ih, Piece.segment, Piece.value?,
        List.filterMap_cons, List.map_cons, Segment.fill, String.append_assoc]
      rfl
    | value v =>
      simp only [List.foldlM_cons, add, Piece.segment, Piece.value?, List.filterMap_cons,
        List.map_cons, List.mapM_cons]
      cases d.quoteLiteral v with
      | error f => rfl
      | ok lit =>
        simp only [ih]
        cases (rest.filterMap Piece.value?).mapM d.quoteLiteral with
        | error f => rfl
        | ok lits =>
          show Except.ok _ = Except.ok _
          simp [Segment.fill, String.append_assoc]

end Statement

namespace SqlM

variable {m : SqlM Unit} {d : Dialect}

/-- A writer that runs to its end is put together from the pieces it wrote. -/
theorem statement_of_ran (ran : (m.run.run #[]).1 = .ok ()) (inline : Bool) :
    m.statement d inline = Statement.build d inline (m.run.run #[]).2 := by
  unfold SqlM.statement
  revert ran
  generalize m.run.run #[] = written
  obtain ⟨result, pieces⟩ := written
  rintro ⟨⟩
  dsimp only
  cases Statement.build d inline pieces <;> rfl

/-- A statement that is put together comes from a writer that ran to its end. -/
theorem ran_of_statement {inline : Bool} {st : Statement} (put : m.statement d inline = .ok st) :
    (m.run.run #[]).1 = .ok () := by
  unfold SqlM.statement at put
  revert put
  generalize m.run.run #[] = written
  obtain ⟨result, pieces⟩ := written
  intro put
  dsimp only at put ⊢
  cases built : Statement.build d inline pieces with
  | error f =>
    rw [built] at put
    cases put
  | ok b =>
    cases result with
    | error f =>
      rw [built] at put
      cases put
    | ok u => rfl

/-- Whatever a writer writes, its bound and inline statements agree segment by
segment: each parameter is the converted value of a slot, and the inline text is
the bound one with the literal of each value in its slot. -/
theorem statement_inline_of_bound {st : Statement} (bound : m.statement d false = .ok st) :
    ∃ (vs : List Value) (segs : List Segment),
      List.Forall₂ (fun v p => d.convertParam v = .ok p) vs st.params.toList ∧
      (Segment.marks segs).count none = st.params.size ∧
      st.text = Segment.bound d segs ∧
      (·.text) <$> m.statement d true = Segment.fill segs <$> vs.mapM d.quoteLiteral := by
  have ran := ran_of_statement bound
  rw [statement_of_ran ran] at bound ⊢
  rw [Statement.build, ← Array.foldlM_toList, Statement.foldlM_add_bound] at bound
  rw [Statement.build, ← Array.foldlM_toList, Statement.foldlM_add_inline]
  generalize (m.run.run #[]).2.toList = pieces at bound ⊢
  refine ⟨pieces.filterMap Piece.value?, pieces.map Piece.segment, ?_⟩
  cases converted : (pieces.filterMap Piece.value?).mapM d.convertParam with
  | error f =>
    rw [converted] at bound
    cases bound
  | ok ps =>
    rw [converted] at bound
    cases bound
    have paired := forall₂_of_mapM_ok converted
    refine ⟨by simpa using paired, by simp [Piece.count_slots, paired.length_eq], by simp, ?_⟩
    cases (pieces.filterMap Piece.value?).mapM d.quoteLiteral <;> rfl

end SqlM

namespace Query

variable {q : Query} {cat : Catalog} {d : Dialect} {clock : Calendar.DateTime}

/-- A query that renders, bound, renders inline to the same segments with the
literals of its values in their slots; a select's count as well as its rows. -/
theorem render_inline_of_bound {count : Bool} {st : Statement}
    (rendered : q.render cat d clock false count = .ok st) :
    ∃ (vs : List Value) (segs : List Segment),
      List.Forall₂ (fun v p => d.convertParam v = .ok p) vs st.params.toList ∧
      (Segment.marks segs).count none = st.params.size ∧
      st.text = Segment.bound d segs ∧
      (·.text) <$> q.render cat d clock true count = Segment.fill segs <$> vs.mapM d.quoteLiteral := by
  -- both modes check the recorded fault and the binding first, then write the same pieces
  cases faulted : q.fault with
  | some f =>
    simp only [render, faulted] at rendered
    cases rendered
  | none =>
    cases bound : q.bound with
    | false =>
      simp only [render, faulted, bound] at rendered
      cases rendered
    | true =>
      simp only [render, faulted, bound] at rendered ⊢
      exact SqlM.statement_inline_of_bound rendered

theorem toText_eq_map_render : q.toText cat d clock = (·.text) <$> q.render cat d clock true false := by
  unfold toText
  cases q.render cat d clock true false <;> rfl

end Query

/-- A query's text with its values bound and its text with them inline agree: read
as text and parameter slots, the bound text has a slot for each parameter, each
parameter the converted value of its slot, and the inline text fills every slot
with the literal of that value, failing as the first value without a literal
does. Where the driver marks parameters `%s`, it reads the bound text back into
exactly these segments, whatever percent signs the text holds. -/
theorem inline_literals_fill_bound_slots (q : Query) (cat : Catalog) (d : Dialect)
    (clock : Calendar.DateTime) (st : Statement) (rendered : q.toSql cat d clock = .ok st) :
    ∃ (vs : List Value) (segs : List Segment),
      List.Forall₂ (fun v p => d.convertParam v = .ok p) vs st.params.toList ∧
      (Segment.marks segs).count none = st.params.size ∧
      st.text = Segment.bound d segs ∧
      (d.paramStyle = .format → readFormatMarks st.text.toList = some (Segment.marks segs)) ∧
      q.toText cat d clock = Segment.fill segs <$> vs.mapM d.quoteLiteral := by
  obtain ⟨vs, segs, paired, slots, bound, inline⟩ := Query.render_inline_of_bound rendered
  refine ⟨vs, segs, paired, slots, bound, fun format => ?_, ?_⟩
  · rw [bound]
    exact readFormatMarks_bound format segs
  · rw [Query.toText_eq_map_render, inline]

/-- A percent sign in the selected text and in a bound value: the text's is doubled,
the value's stays in its parameter, and the query renders. -/
theorem percent_column_renders_bound_and_inline :
    let q : Query :=
      { clauses := .select { columns := some [Fragment.safe "id % 7"] },
        tables := [Fragment.safe "notes"], wheres := [Fragment.within [Value.str "b%"]] }
    let st : Statement := { text := "SELECT id %% 7 FROM notes WHERE (%s)", params := #[Value.str "b%"] }
    q.toSql default .postgres default = .ok st ∧
      ∃ (vs : List Value) (segs : List Segment),
        List.Forall₂ (fun v p => Dialect.postgres.convertParam v = .ok p) vs st.params.toList ∧
        (Segment.marks segs).count none = st.params.size ∧
        st.text = Segment.bound .postgres segs ∧
        (Dialect.postgres.paramStyle = .format →
          readFormatMarks st.text.toList = some (Segment.marks segs)) ∧
        q.toText default .postgres default = Segment.fill segs <$> vs.mapM Dialect.postgres.quoteLiteral := by
  intro q st
  have rendered : q.toSql default .postgres default = .ok st := by cbv
  exact ⟨rendered, inline_literals_fill_bound_slots q default .postgres default st rendered⟩

end SqlMapper
