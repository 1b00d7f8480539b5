import Mathlib
import SqlMapper.Sql.Writer

/-!
# Quoted identifiers

An identifier is written part by part: a dotted name is split at every dot, a
part `*` stays bare, and every other part is quoted with the dialect's quote
character, written twice inside it. A reader of SQL reads such text back
(`readIdentifier`): a quoted part runs to the first quote that is not doubled,
and a dot after a part starts the next one.

Main statements: whatever the name, its quoted text reads back as exactly the
parts of the name, each quoted part denoting that part and a `*` bare, and the
reading stops where the quoted text ends, before any text that does not go on
with a dot or a quote; so no two names are quoted alike. A column qualified by
an alias is written as the dotted name `alias.column`, so it reads back as that
column of that alias exactly when neither name holds a dot or is `*`: a column
whose name holds a dot is read back as three names or more.
-/

set_option autoImplicit false

namespace SqlMapper

/-- A part of a dotted identifier as a reader of SQL sees it. -/
inductive IdentPart where
  /-- A quoted part, denoting the name between its quotes. -/
  | quoted (name : String)
  /-- A bare `*`. -/
  | star
  deriving DecidableEq, Repr

/-- The part a part of a name is written as: `*` bare, any other part quoted. -/
def IdentPart.ofName (part : String) : IdentPart := if part = "*" then .star else .quoted part

theorem IdentPart.ofName_injective : Function.Injective IdentPart.ofName := by
  intro a b same
  unfold IdentPart.ofName at same
  split at same <;> split at same <;> simp_all

@[simp] theorem IdentPart.ofName_eq_quoted {part name : String} :
    IdentPart.ofName part = .quoted name ↔ part = name ∧ part ≠ "*" := by
  unfold IdentPart.ofName
  split <;> simp_all

/-- Where a reader of an identifier stands. -/
inductive IdentReading where
  /-- Before a part. -/
  | part
  /-- Inside a quoted part, with the characters it denotes so far. -/
  | quoted (read : List Char)
  /-- After a quote inside a quoted part: it closes the part unless a second quote follows. -/
  | closing (read : List Char)
  /-- After a bare `*`. -/
  | afterStar

/-- Reads a dotted identifier quoted by `q` from the front of a text: its parts
and the text after it. A part is a bare `*`, or runs from a quote to the next
quote that is not doubled; a dot after a part starts another. -/
def readIdentifier (q : Char) : IdentReading → List Char → Option (List IdentPart × List Char)
  | .part, c :: rest =>
    if c = '*' then (readIdentifier q .afterStar rest).map fun read => (.star :: read.1, read.2)
    else if c = q then readIdentifier q (.quoted []) rest
    else none
  | .part, [] => none
  | .quoted read, c :: rest =>
    if c = q then readIdentifier q (.closing read) rest else readIdentifier q (.quoted (read ++ [c])) rest
  | .quoted _, [] => none
  | .closing read, c :: rest =>
    if c = q then readIdentifier q (.quoted (read ++ [q])) rest
    else if c = '.' then
      (readIdentifier q .part rest).map fun later => (.quoted (String.ofList read) :: later.1, later.2)
    else some ([.quoted (String.ofList read)], c :: rest)
  | .closing read, [] => some ([.quoted (String.ofList read)], [])
  | .afterStar, c :: rest => if c = '.' then readIdentifier q .part rest else some ([], c :: rest)
  | .afterStar, [] => some ([], [])

/-! ## Reading quoted parts -/

section Reading

variable (q : Char)

/-- The body of a quoted part is read whole: each doubled quote as one quote, and
the reading stands at the quote that closes it. -/
theorem readIdentifier_quotedBody (read cs rest : List Char) :
    readIdentifier q (.quoted read) ((cs.flatMap fun c => if c == q then [q, q] else [c]) ++ q :: rest) =
      readIdentifier q (.closing (read ++ cs)) rest := by
  induction cs generalizing read with
  | nil => simp [readIdentifier]
  | cons c cs ih =>
    rw [List.flatMap_cons, List.append_assoc]
    by_cases quote : c = q
    · -- a doubled quote: the first is read as closing, the second reopens with a quote
      subst quote
      rw [if_pos (beq_self_eq_true c)]
      simp only [List.cons_append, List.nil_append, readIdentifier, if_true]
      rw [ih, List.append_assoc, List.singleton_append]
    · rw [if_neg (by simpa using quote)]
      simp only [List.cons_append, List.nil_append, readIdentifier, if_neg quote]
      rw [ih, List.append_assoc, List.singleton_append]

variable {q}

theorem readIdentifier_closing_dot (notDot : q ≠ '.') (read rest : List Char) :
    readIdentifier q (.closing read) ('.' :: rest) =
      (readIdentifier q .part rest).map fun later => (.quoted (String.ofList read) :: later.1, later.2) := by
  simp [readIdentifier, notDot.symm]

/-- Text that goes on with neither a dot nor a quote ends a quoted part. -/
theorem readIdentifier_closing_stop {rest : List Char} (stops : ∀ c ∈ rest.head?, c ≠ '.' ∧ c ≠ q)
    (read : List Char) :
    readIdentifier q (.closing read) rest = some ([.quoted (String.ofList read)], rest) := by
  cases rest with
  | nil => simp [readIdentifier]
  | cons c tail =>
    obtain ⟨notDot, notQuote⟩ := stops c rfl
    simp [readIdentifier, notDot, notQuote]

theorem readIdentifier_afterStar_dot (rest : List Char) :
    readIdentifier q .afterStar ('.' :: rest) = readIdentifier q .part rest := by
  simp [readIdentifier]

theorem readIdentifier_afterStar_stop {rest : List Char} (stops : ∀ c ∈ rest.head?, c ≠ '.' ∧ c ≠ q) :
    readIdentifier q .afterStar rest = some ([], rest) := by
  cases rest with
  | nil => simp [readIdentifier]
  | cons c tail => simp [readIdentifier, (stops c rfl).1]

end Reading

/-! ## Reading quoted identifiers -/

namespace Dialect

theorem quoteChar_ne_star (d : Dialect) : d.quoteChar ≠ '*' := by
  cases d <;> simp [quoteChar]

theorem quoteChar_ne_dot (d : Dialect) : d.quoteChar ≠ '.' := by
  cases d <;> simp [quoteChar]

/-- A part is read as itself: a `*` bare, any other part quoted, whatever follows. -/
theorem readIdentifier_quotePart (d : Dialect) (part : String) (tail : List Char) :
    readIdentifier d.quoteChar .part ((d.quotePart part).toList ++ tail) =
      if part = "*" then (readIdentifier d.quoteChar .afterStar tail).map fun read => (.star :: read.1, read.2)
      else readIdentifier d.quoteChar (.closing part.toList) tail := by
  unfold quotePart
  by_cases star : part = "*"
  · subst star
    simp [readIdentifier]
  · have quoted := readIdentifier_quotedBody d.quoteChar [] part.toList tail
    rw [List.nil_append] at quoted
    rw [if_neg (by simpa using star), if_neg star]
    simp only [String.toList_ofList, List.cons_append, List.append_assoc, List.nil_append]
    rw [readIdentifier, if_neg d.quoteChar_ne_star, if_pos rfl, quoted]

/-- A part followed by a dot is read, and the reading goes on with the next part. -/
theorem readIdentifier_quotePart_dot (d : Dialect) (part : String) (rest : List Char) :
    readIdentifier d.quoteChar .part ((d.quotePart part).toList ++ '.' :: rest) =
      (readIdentifier d.quoteChar .part rest).map fun later => (IdentPart.ofName part :: later.1, later.2) := by
  rw [readIdentifier_quotePart]
  unfold IdentPart.ofName
  split
  · rw [readIdentifier_afterStar_dot]
  · rw [readIdentifier_closing_dot d.quoteChar_ne_dot, String.ofList_toList]

/-- A part followed by text that does not go on with it is read alone. -/
theorem readIdentifier_quotePart_stop (d : Dialect) (part : String) {rest : List Char}
    (stops : ∀ c ∈ rest.head?, c ≠ '.' ∧ c ≠ d.quoteChar) :
    readIdentifier d.quoteChar .part ((d.quotePart part).toList ++ rest) =
      some ([IdentPart.ofName part], rest) := by
  rw [readIdentifier_quotePart]
  unfold IdentPart.ofName
  split
  · rw [readIdentifier_afterStar_stop stops]
    rfl
  · rw [readIdentifier_closing_stop stops, String.ofList_toList]

/-- Quoted parts joined by dots are read back part by part. -/
theorem readIdentifier_intercalate (d : Dialect) {rest : List Char}
    (stops : ∀ c ∈ rest.head?, c ≠ '.' ∧ c ≠ d.quoteChar) :
    ∀ parts : List String, parts ≠ [] →
      readIdentifier d.quoteChar .part ((".".intercalate (parts.map d.quotePart)).toList ++ rest) =
        some (parts.map IdentPart.ofName, rest)
  | [], nonempty => absurd rfl nonempty
  | [part], _ => by simpa using d.readIdentifier_quotePart_stop part stops
  | part :: next :: later, _ => by
    have tail := d.readIdentifier_intercalate stops (next :: later) (List.cons_ne_nil _ _)
    rw [List.map_cons, List.map_cons, String.intercalate_cons_cons, ← List.map_cons,
      String.toList_append, String.toList_append, List.append_assoc, List.append_assoc]
    change readIdentifier d.quoteChar .part ((d.quotePart part).toList ++
      '.' :: ((".".intercalate ((next :: later).map d.quotePart)).toList ++ rest)) = _
    rw [readIdentifier_quotePart_dot, tail]
    rfl

/-! ## Dotted names -/

theorem dottedParts_ne_nil (name : String) : dottedParts name ≠ [] := by
  unfold dottedParts
  simp [List.splitOn_ne_nil]

/-- A name is its parts joined by dots. -/
theorem dottedParts_injective : Function.Injective dottedParts := by
  intro a b same
  unfold dottedParts at same
  have chars : a.toList.splitOn '.' = b.toList.splitOn '.' :=
    List.map_injective_iff.2 (fun _ _ same => String.ofList_injective same) same
  have joinA : ['.'].intercalate (a.toList.splitOn '.') = a.toList := List.intercalate_splitOn '.'
  have joinB : ['.'].intercalate (b.toList.splitOn '.') = b.toList := List.intercalate_splitOn '.'
  apply String.toList_injective
  rw [← joinA, ← joinB, chars]

/-- No piece of a list split at a separator holds the separator. -/
theorem sep_not_mem_of_mem_splitOn {sep : Char} : ∀ {xs part : List Char}, part ∈ xs.splitOn sep → sep ∉ part
  | [], part, mem => by simp_all [List.splitOn_nil]
  | x :: xs, part, mem => by
    obtain ⟨first, later, split⟩ := List.exists_cons_of_ne_nil (List.splitOn_ne_nil sep xs)
    have firstPlain : sep ∉ first := sep_not_mem_of_mem_splitOn (by simp [split] : first ∈ xs.splitOn sep)
    have laterPlain : ∀ p ∈ later, sep ∉ p := fun p mem =>
      sep_not_mem_of_mem_splitOn (by simp [split, mem] : p ∈ xs.splitOn sep)
    rw [List.splitOn_cons_eq_if_modifyHead, split] at mem
    split at mem
    · -- the separator closes an empty piece and the pieces of the rest follow
      simp only [List.mem_cons] at mem
      rcases mem with rfl | rfl | mem
      · simp
      · exact firstPlain
      · exact laterPlain part mem
    · -- any other character opens the first piece of the rest
      rename_i notSep
      simp only [List.modifyHead_cons, List.mem_cons] at mem
      rcases mem with rfl | mem
      · exact List.not_mem_cons_of_ne_of_not_mem (by rintro rfl; exact notSep (beq_self_eq_true _))
          firstPlain
      · exact laterPlain part mem

theorem dot_not_mem_of_mem_dottedParts {name part : String} (mem : part ∈ dottedParts name) :
    '.' ∉ part.toList := by
  unfold dottedParts at mem
  obtain ⟨chars, split, rfl⟩ := List.mem_map.1 mem
  simpa using sep_not_mem_of_mem_splitOn split

/-- A name of two parts without dots is split into those parts. -/
theorem dottedParts_qualified {qualifier name : String} (qualifierPlain : '.' ∉ qualifier.toList)
    (namePlain : '.' ∉ name.toList) : dottedParts (qualifier ++ "." ++ name) = [qualifier, name] := by
  unfold dottedParts
  have split : (qualifier ++ "." ++ name).toList = qualifier.toList ++ '.' :: name.toList := by simp
  rw [split, List.splitOn_append_cons_self_of_not_mem qualifierPlain, List.splitOn_eq_singleton namePlain]
  simp

/-- A dotted name splits into two given parts only if neither holds a dot. -/
theorem dottedParts_eq_pair {qualifier name first second : String}
    (split : dottedParts (qualifier ++ "." ++ name) = [first, second]) :
    '.' ∉ qualifier.toList ∧ '.' ∉ name.toList := by
  have firstPlain := dot_not_mem_of_mem_dottedParts (by simp [split] : first ∈ dottedParts (qualifier ++ "." ++ name))
  have secondPlain := dot_not_mem_of_mem_dottedParts (by simp [split] : second ∈ dottedParts (qualifier ++ "." ++ name))
  -- both names are the one dotted name with a single dot; count the dots
  have rejoined : first ++ "." ++ second = qualifier ++ "." ++ name :=
    dottedParts_injective ((dottedParts_qualified firstPlain secondPlain).trans split.symm)
  have dots := congrArg (fun s : String => s.toList.count '.') rejoined
  simp only [String.toList_append, List.count_append, List.count_eq_zero_of_not_mem firstPlain,
    List.count_eq_zero_of_not_mem secondPlain] at dots
  have oneDot : ".".toList.count '.' = 1 := by decide
  constructor <;> apply List.count_eq_zero.1 <;> omega

/-! ## Reading identifiers back -/

/-- A quoted identifier is read back as the parts of its name, and the reading stops
where the identifier ends. -/
theorem readIdentifier_quoteIdentifier (d : Dialect) (name : String) (rest : List Char)
    (stops : ∀ c ∈ rest.head?, c ≠ '.' ∧ c ≠ d.quoteChar) :
    readIdentifier d.quoteChar .part ((d.quoteIdentifier name).toList ++ rest) =
      some ((dottedParts name).map IdentPart.ofName, rest) :=
  d.readIdentifier_intercalate stops _ (by simpa using dottedParts_ne_nil name)

theorem readIdentifier_quoteIdentifier_whole (d : Dialect) (name : String) :
    readIdentifier d.quoteChar .part (d.quoteIdentifier name).toList =
      some ((dottedParts name).map IdentPart.ofName, []) := by
  simpa using d.readIdentifier_quoteIdentifier name [] (by simp)

theorem quoteIdentifier_ne_empty (d : Dialect) (name : String) : d.quoteIdentifier name ≠ "" := by
  intro empty
  have read := d.readIdentifier_quoteIdentifier_whole name
  rw [empty] at read
  simp [readIdentifier] at read

theorem quoteIdentifier_injective (d : Dialect) : Function.Injective d.quoteIdentifier := by
  intro a b same
  have read := d.readIdentifier_quoteIdentifier_whole a
  rw [same, d.readIdentifier_quoteIdentifier_whole b] at read
  have parts : (dottedParts b).map IdentPart.ofName = (dottedParts a).map IdentPart.ofName := by
    simpa using read
  exact (dottedParts_injective (List.map_injective_iff.2 IdentPart.ofName_injective parts)).symm

/-- A name qualified by another is read back as those two names, both quoted, exactly
when neither holds a dot or is a star. -/
theorem readIdentifier_qualified_iff (d : Dialect) (qualifier name : String) :
    readIdentifier d.quoteChar .part (d.quoteIdentifier (qualifier ++ "." ++ name)).toList =
        some ([.quoted qualifier, .quoted name], []) ↔
      '.' ∉ qualifier.toList ∧ '.' ∉ name.toList ∧ qualifier ≠ "*" ∧ name ≠ "*" := by
  rw [d.readIdentifier_quoteIdentifier_whole]
  constructor
  · intro read
    have parts : (dottedParts (qualifier ++ "." ++ name)).map IdentPart.ofName =
        [.quoted qualifier, .quoted name] := by simpa using read
    simp only [List.map_eq_cons_iff, List.map_eq_nil_iff] at parts
    obtain ⟨first, _, split, firstQuoted, second, _, rfl, secondQuoted, rfl⟩ := parts
    obtain ⟨rfl, firstNotStar⟩ := IdentPart.ofName_eq_quoted.1 firstQuoted
    obtain ⟨rfl, secondNotStar⟩ := IdentPart.ofName_eq_quoted.1 secondQuoted
    exact ⟨(dottedParts_eq_pair split).1, (dottedParts_eq_pair split).2, firstNotStar, secondNotStar⟩
  · rintro ⟨qualifierPlain, namePlain, qualifierNotStar, nameNotStar⟩
    rw [dottedParts_qualified qualifierPlain namePlain]
    simp [IdentPart.ofName, qualifierNotStar, nameNotStar]

end Dialect

/-! ## Where columns are qualified -/

/-- Names none of which is empty join to the empty text only when there are none. -/
theorem intercalate_eq_empty_iff (sep : String) :
    ∀ {names : List String}, (∀ n ∈ names, n ≠ "") → (sep.intercalate names = "" ↔ names = [])
  | [], _ => by simp [String.intercalate_nil]
  | [n], nonempty => by simpa [String.intercalate_singleton] using nonempty n (by simp)
  | n :: m :: rest, nonempty => by
    rw [String.intercalate_cons_cons]
    simp [String.append_eq_empty_iff, nonempty n (by simp)]

namespace Frame

variable (fr : Frame) (pieces : Array Piece)

theorem writeIdent_run (name : String) :
    (fr.writeIdent name).run.run pieces = (.ok (), pieces.push (.text (fr.dialect.quoteIdentifier name))) := by
  have written : (fr.dialect.quoteIdentifier name).isEmpty = false :=
    String.isEmpty_eq_false_iff.2 (fr.dialect.quoteIdentifier_ne_empty name)
  simp only [writeIdent, write, written]
  rfl

/-- A column qualified by an alias given to it is written as the one dotted name
of the alias and the column. -/
theorem writeColumn_given (name : String) {aliasName : String} (named : aliasName ≠ "") :
    (fr.writeColumn name (some aliasName)).run.run pieces =
      (.ok (), pieces.push (.text (fr.dialect.quoteIdentifier (aliasName ++ "." ++ name)))) := by
  have notEmpty : aliasName.isEmpty = false := String.isEmpty_eq_false_iff.2 named
  simp only [writeColumn, notEmpty, Bool.false_eq_true, if_false]
  exact fr.writeIdent_run pieces _

/-- A column qualified by the frame's own alias is written the same way. -/
theorem writeColumn_own (name : String) {aliasName : String} (own : fr.aliasName = some aliasName)
    (named : aliasName ≠ "") :
    (fr.writeColumn name).run.run pieces =
      (.ok (), pieces.push (.text (fr.dialect.quoteIdentifier (aliasName ++ "." ++ name)))) := by
  have notEmpty : aliasName.isEmpty = false := String.isEmpty_eq_false_iff.2 named
  simp only [writeColumn, own, notEmpty, Bool.false_eq_true, if_false]
  exact fr.writeIdent_run pieces _

theorem write_intercalate_run (sep : String) {names : List String} (nonempty : ∀ n ∈ names, n ≠ "") :
    (fr.write (sep.intercalate names)).run.run pieces =
      (.ok (), if names = [] then pieces else pieces.push (.text (sep.intercalate names))) := by
  by_cases noNames : names = []
  · subst noNames
    rfl
  · have written : (sep.intercalate names).isEmpty = false :=
      String.isEmpty_eq_false_iff.2 fun empty => noNames ((intercalate_eq_empty_iff sep nonempty).1 empty)
    simp only [write, written, noNames]
    rfl

/-- The key columns and the columns of the frame's table are written qualified by
its alias, one dotted name for each, separated by commas. -/
theorem writeSlot_qualified {t : TableSchema} (bound : fr.table = some t) {slot : Text.Slot}
    {cs : List Column} (columns : slot = .pks ∧ cs = t.pks ∨ slot = .tableColumns ∧ cs = t.columns) :
    (fr.writeSlot slot).run.run pieces =
      (.ok (), if cs = [] then pieces else pieces.push (.text (", ".intercalate
        (cs.map fun c => fr.dialect.quoteIdentifier (fr.aliasName.getD t.aliasName ++ "." ++ c.name))))) := by
  have nonempty : ∀ n ∈ cs.map fun c => fr.dialect.quoteIdentifier (fr.aliasName.getD t.aliasName ++ "." ++ c.name),
      n ≠ "" := by
    simp [Dialect.quoteIdentifier_ne_empty]
  have written := fr.write_intercalate_run pieces ", " nonempty
  simp only [List.map_eq_nil_iff] at written
  rcases columns with ⟨rfl, rfl⟩ | ⟨rfl, rfl⟩ <;>
  · simp only [writeSlot, bound]
    exact written

end Frame

/-! ## Main statement -/

/-- Every identifier is read back as the parts of its name, each quoted but a star,
and the reading ends where its text ends, so no two names are quoted alike. Wherever a
column is qualified by an alias, the text written is the one dotted name of the two,
and it is read back as that column of that alias exactly when neither name holds a
dot or is a star. -/
theorem quoted_identifiers_read_back (d : Dialect) :
    (∀ name rest, (∀ c ∈ rest.head?, c ≠ '.' ∧ c ≠ d.quoteChar) →
      readIdentifier d.quoteChar .part ((d.quoteIdentifier name).toList ++ rest) =
        some ((Dialect.dottedParts name).map IdentPart.ofName, rest)) ∧
    Function.Injective d.quoteIdentifier ∧
    (∀ aliasName column,
      readIdentifier d.quoteChar .part (d.quoteIdentifier (aliasName ++ "." ++ column)).toList =
          some ([.quoted aliasName, .quoted column], []) ↔
        '.' ∉ aliasName.toList ∧ '.' ∉ column.toList ∧ aliasName ≠ "*" ∧ column ≠ "*") ∧
    ∀ fr : Frame, fr.dialect = d → ∀ pieces : Array Piece,
      (∀ column aliasName, aliasName ≠ "" →
        (fr.writeColumn column (some aliasName)).run.run pieces =
          (.ok (), pieces.push (.text (d.quoteIdentifier (aliasName ++ "." ++ column))))) ∧
      (∀ column aliasName, fr.aliasName = some aliasName → aliasName ≠ "" →
        (fr.writeColumn column).run.run pieces =
          (.ok (), pieces.push (.text (d.quoteIdentifier (aliasName ++ "." ++ column))))) ∧
      ∀ t slot cs, fr.table = some t → (slot = .pks ∧ cs = t.pks ∨ slot = .tableColumns ∧ cs = t.columns) →
        (fr.writeSlot slot).run.run pieces =
          (.ok (), if cs = [] then pieces else pieces.push (.text (", ".intercalate
            (cs.map fun c => d.quoteIdentifier (fr.aliasName.getD t.aliasName ++ "." ++ c.name))))) := by
  refine ⟨d.readIdentifier_quoteIdentifier, d.quoteIdentifier_injective, d.readIdentifier_qualified_iff, ?_⟩
  rintro fr rfl pieces
  exact ⟨fun column _ named => fr.writeColumn_given pieces column named,
    fun column _ own named => fr.writeColumn_own pieces column own named,
    fun _ _ _ bound columns => fr.writeSlot_qualified pieces bound columns⟩

/-- A frame of the Postgres dialect with no table. -/
def postgresFrame : Frame := { catalog := default, dialect := .postgres, clock := default }

theorem qualified_identifiers_read_back_in_postgres :
    readIdentifier Dialect.postgres.quoteChar .part
        ((Dialect.postgres.quoteIdentifier "a\"b.*").toList ++ ", c".toList) =
        some ([.quoted "a\"b", .star], ", c".toList) ∧
      readIdentifier Dialect.postgres.quoteChar .part
          (Dialect.postgres.quoteIdentifier ("note" ++ "." ++ "body")).toList =
        some ([.quoted "note", .quoted "body"], []) ∧
      (postgresFrame.writeColumn "body" (some "note")).run.run #[] =
        (.ok (), #[.text (Dialect.postgres.quoteIdentifier ("note" ++ "." ++ "body"))]) ∧
      ({ postgresFrame with explicitAlias := some "n" }.writeColumn "body").run.run #[] =
        (.ok (), #[.text (Dialect.postgres.quoteIdentifier ("n" ++ "." ++ "body"))]) ∧
      ({ postgresFrame with table := some default }.writeSlot .pks).run.run #[] = (.ok (), #[]) := by
  have parts := quoted_identifiers_read_back .postgres
  refine ⟨?_, (parts.2.2.1 "note" "body").2 (by decide), ?_, ?_, ?_⟩
  · rw [parts.1 "a\"b.*" ", c".toList (by simp [Dialect.quoteChar])]
    unfold Dialect.dottedParts
    decide
  · exact (parts.2.2.2 postgresFrame rfl #[]).1 "body" "note" (by decide)
  · exact (parts.2.2.2 _ rfl #[]).2.1 "body" "n" (by decide) (by decide)
  · exact (parts.2.2.2 _ rfl #[]).2.2 default .pks [] rfl (.inl ⟨rfl, by decide⟩)

/-- A column whose name holds a dot, qualified by its alias, is read back as three names. -/
theorem dotted_column_reads_as_three_names :
    (postgresFrame.writeColumn "a.b" (some "note")).run.run #[] =
        (.ok (), #[.text (Dialect.postgres.quoteIdentifier ("note" ++ "." ++ "a.b"))]) ∧
      readIdentifier '"' .part (Dialect.postgres.quoteIdentifier ("note" ++ "." ++ "a.b")).toList =
        some ([.quoted "note", .quoted "a", .quoted "b"], []) := by
  refine ⟨postgresFrame.writeColumn_given #[] "a.b" (by decide), ?_⟩
  rw [show '"' = Dialect.postgres.quoteChar from rfl, Dialect.readIdentifier_quoteIdentifier_whole]
  unfold Dialect.dottedParts
  decide

end SqlMapper
