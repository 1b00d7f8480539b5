import Mathlib
import SqlMapper.Proofs.ShortestDigits
import SqlMapper.Proofs.StringLiterals
import SqlMapper.Proofs.JsonNul

/-!
# What an inline literal denotes

A value written inline into SQL is one literal, which the engine reads back as the value.
`Dialect.Denotes` says for each kind of value what the engine of a dialect reads from its
literal: a numeral standing for the number, for a float one whose magnitude rounds to the
double; a string literal that ends at its closing quote and holds exactly the text of a string,
of a calendar value's ISO form or of a composite value's JSON; a blob, or on PostgreSQL a
`bytea` text, of exactly the bytes; and the dialect's forms of `NULL`, of truth values, of NaN
and of the infinities. A member's literal denotes its value.

Main statement: every literal `quoteLiteral` writes denotes its value, except the literal of a
decimal that is no number. A decimal NaN or infinity is written as its bare text, `NaN` or
`Infinity`, which is no literal: an engine reads it as a name.

Floats are opaque, so of a NaN or an infinity only the form of its literal is known, not
which form it takes. Every text a literal holds here is free of NUL, so each engine holds it;
that of a string is the one exception, read back exactly when the engine can hold it.
-/

set_option autoImplicit false

namespace SqlMapper

open SqlMapper.Number SqlMapper.Calendar SqlMapper.Json SqlMapper.Text

/-! ## Texts without NUL -/

theorem nul_not_mem_toDigits (n : Nat) : '\x00' ∉ Nat.toDigits 10 n := fun member => by
  simpa using Nat.isDigit_of_mem_toDigits (by decide) (by decide) member

theorem nul_not_mem_padded (width n : Nat) : '\x00' ∉ (padded width n).toList := by
  simp only [padded, String.toList_ofList, List.mem_append, List.mem_replicate, not_or]
  exact ⟨by simp, nul_not_mem_toDigits n⟩

theorem nul_not_mem_offsetIso (o : Int) : '\x00' ∉ (offsetIso o).toList := by
  unfold offsetIso
  dsimp only
  split_ifs <;> simp [String.toList_append, nul_not_mem_padded]

theorem nul_not_mem_dateIso (x : Date) : '\x00' ∉ x.iso.toList := by
  simp [Date.iso, String.toList_append, nul_not_mem_padded]

theorem nul_not_mem_timeIso (t : TimeOfDay) : '\x00' ∉ t.iso.toList := by
  unfold TimeOfDay.iso
  cases t.offset <;> split_ifs <;>
    simp [String.toList_append, nul_not_mem_padded, nul_not_mem_offsetIso]

theorem nul_not_mem_dateTimeIso (dt : DateTime) (sep : String) (noNul : '\x00' ∉ sep.toList) :
    '\x00' ∉ (dt.iso sep).toList := by
  simp [DateTime.iso, String.toList_append, nul_not_mem_dateIso, nul_not_mem_timeIso, noNul]

theorem nul_not_mem_intText (n : Int) : '\x00' ∉ (toString n).toList := by
  rw [intText_toList]
  cases decide (n < 0) <;> simp [signChars, decimalDigits, nul_not_mem_toDigits]

/-- A character that is no digit, no point, no `e` and no sign stands nowhere in a number placed
in a style unless among its digits. -/
theorem not_mem_placeDigits {x : Char} (notDigit : x.isDigit = false) (notMark : x ∉ ['.', 'e', '+', '-'])
    {ds : List Char} (absent : x ∉ ds) (style : FloatStyle) (point : Int) :
    x ∉ (placeDigits style ds point).toList := by
  have notZero : x ≠ '0' := fun same => by simp [same] at notDigit
  have notExponent : x ∉ decimalDigits (point - 1).natAbs := fun mem => by
    simp [isDigit_of_mem_decimalDigits mem] at notDigit
  simp only [List.mem_cons, List.not_mem_nil, or_false, not_or] at notMark
  obtain ⟨notPoint, notE, notPlus, notMinus⟩ := notMark
  unfold placeDigits
  dsimp only
  split
  · -- written positionally: the digits, zeros and one point
    split
    · simp [List.mem_replicate, notZero, absent, notPoint]
    · split
      · simp [List.mem_replicate, notZero, absent, notPoint]
      · simp only [String.toList_ofList, List.mem_append, List.mem_cons, not_or]
        exact ⟨fun mem => absent (List.mem_of_mem_take mem), notPoint,
          fun mem => absent (List.mem_of_mem_drop mem)⟩
  · -- written in scientific notation: a mantissa, `e`, a sign and the exponent's digits
    simp only [String.toList_append, String.toList_ofList, List.mem_append, List.mem_replicate, not_or]
    refine ⟨⟨⟨?_, by simpa using notE⟩, by split <;> simp [notMinus, notPlus]⟩, by simp [notZero], notExponent⟩
    split <;> simp_all

theorem nul_not_mem_formatFloat (x : Float) : '\x00' ∉ (formatFloat .json x).toList := by
  unfold formatFloat
  split
  · decide
  · split <;> decide
  · split <;> decide
  · simp only [String.toList_append, List.mem_append, not_or]
    exact ⟨by split <;> decide, not_mem_placeDigits (by decide) (by decide) (nul_not_mem_toDigits _) _ _⟩

theorem nul_not_mem_hexPadded : ∀ n < 32, '\x00' ∉ (hexPadded 4 n).toList := by decide

theorem nul_not_mem_jsonEscape (c : Char) : '\x00' ∉ (jsonEscape c).toList := by
  unfold jsonEscape
  split
  any_goals decide
  split
  · next control => simpa [String.toList_append] using nul_not_mem_hexPadded c.toNat control
  · next printable =>
    -- a character from space on is written as itself
    have notNul : c ≠ '\x00' := fun same => printable (by simp [same])
    simpa using notNul.symm

theorem nul_not_mem_jsonQuote (s : String) : '\x00' ∉ (jsonQuote s).toList := by
  simp [jsonQuote_toList, nul_not_mem_jsonEscape]

/-! ## JSON text without NUL -/

/-- Text that a computation gives, if it gives any, holds no NUL. -/
def NulFree (r : Except Fault String) : Prop := ∀ text, r = .ok text → '\x00' ∉ text.toList

namespace NulFree

theorem ok {text : String} (noNul : '\x00' ∉ text.toList) : NulFree (.ok text) := by
  rintro _ ⟨⟩
  exact noNul

theorem bind {x : Except Fault String} {f : String → Except Fault String} (first : NulFree x)
    (next : ∀ text, '\x00' ∉ text.toList → NulFree (f text)) : NulFree (x >>= f) := by
  cases x with
  | error e => rintro _ ⟨⟩
  | ok text => exact next text (first text rfl)

end NulFree

/-- Text between two texts without NUL holds none either. -/
theorem nul_not_mem_between {opening closing text : String} (noOpening : '\x00' ∉ opening.toList)
    (noClosing : '\x00' ∉ closing.toList) (noNul : '\x00' ∉ text.toList) :
    '\x00' ∉ (opening ++ text ++ closing).toList := by
  simp [String.toList_append, noOpening, noClosing, noNul]

mutual

/-- JSON text holds no NUL: every string in it is written with its NULs escaped. -/
theorem nulFree_jsonText : ∀ w : Value, NulFree w.jsonText
  | .none => by
    simp only [Value.jsonText]
    exact NulFree.ok (by decide)
  | .bool b => by
    simp only [Value.jsonText]
    cases b <;> exact NulFree.ok (by decide)
  | .int n => by
    simp only [Value.jsonText]
    exact NulFree.ok (nul_not_mem_intText n)
  | .float x => by
    simp only [Value.jsonText]
    exact NulFree.ok (nul_not_mem_formatFloat x)
  | .str s => by
    simp only [Value.jsonText]
    exact NulFree.ok (nul_not_mem_jsonQuote s)
  | .tuple items => by
    simp only [Value.jsonText]
    exact NulFree.bind (nulFree_jsonItems items) fun _ noNul =>
      NulFree.ok (nul_not_mem_between (by decide) (by decide) noNul)
  | .list items => by
    simp only [Value.jsonText]
    exact NulFree.bind (nulFree_jsonItems items) fun _ noNul =>
      NulFree.ok (nul_not_mem_between (by decide) (by decide) noNul)
  | .dict entries => by
    simp only [Value.jsonText]
    exact NulFree.bind (nulFree_jsonMembers entries) fun _ noNul =>
      NulFree.ok (nul_not_mem_between (by decide) (by decide) noNul)
  -- every other value is written as the JSON string of its text form
  | .bytes _ | .decimal _ | .datetime _ | .date _ | .time _ | .set _ | .member .. | .object ..
  | .type _ | .fragment _ | .query _ | .database => by
    simp only [Value.jsonText]
    exact NulFree.ok (nul_not_mem_jsonQuote _)

theorem nulFree_jsonItems : ∀ items : List Value, NulFree (Value.jsonItems items)
  | [] => by
    simp only [Value.jsonItems]
    exact NulFree.ok (by decide)
  | [v] => by
    simp only [Value.jsonItems]
    exact nulFree_jsonText v
  | v :: w :: rest => by
    simp only [Value.jsonItems]
    refine NulFree.bind (nulFree_jsonText v) fun _ first =>
      NulFree.bind (nulFree_jsonItems (w :: rest)) fun _ later => NulFree.ok ?_
    simp [String.toList_append, first, later]

theorem nulFree_jsonMembers : ∀ entries : List (Value × Value), NulFree (Value.jsonMembers entries)
  | [] => by
    simp only [Value.jsonMembers]
    exact NulFree.ok (by decide)
  | (k, v) :: rest => by
    simp only [Value.jsonMembers]
    cases jsonKey? k with
    | none => rintro _ ⟨⟩
    | some key =>
      simp only [pure_bind]
      refine NulFree.bind (nulFree_jsonText v) fun _ value => ?_
      have member := nul_not_mem_between (nul_not_mem_jsonQuote key) value (by decide : '\x00' ∉ ": ".toList)
      cases rest with
      | nil => exact NulFree.ok member
      | cons entry later =>
        dsimp only
        refine NulFree.bind (nulFree_jsonMembers (entry :: later)) fun _ others => NulFree.ok ?_
        simp only [String.toList_append, List.mem_append, not_or] at member ⊢
        exact ⟨⟨member, by decide⟩, others⟩

end

/-- The substitution writes no NUL into text that has none: it writes backslashes, the letters
of `u0000` and what it reads. -/
theorem nul_not_mem_substituteNulChars (pending : Nat) {cs : List Char} (noNul : '\x00' ∉ cs) :
    '\x00' ∉ substituteNulChars pending cs := by
  fun_induction substituteNulChars pending cs <;> simp_all [List.mem_replicate]

theorem nulFree_dumps (v : Value) : NulFree v.dumps := by
  unfold Value.dumps
  cases v.modelDumped with
  | error e => rintro _ ⟨⟩
  | ok w => exact nulFree_jsonText w

/-- The JSON text a dialect stores holds no NUL, its NULs substituted or not. -/
theorem nulFree_encodeJson (d : Dialect) (v : Value) : NulFree (d.encodeJson v) := by
  rw [Dialect.encodeJson_eq_map]
  intro text encoded
  cases dumped : v.dumps with
  | error e =>
    rw [dumped] at encoded
    cases encoded
  | ok dumpedText =>
    rw [dumped] at encoded
    cases encoded
    have noNul := nulFree_dumps v dumpedText dumped
    dsimp only
    split
    · rw [substituteNul, String.toList_ofList]
      exact nul_not_mem_substituteNulChars 0 noNul
    · exact noNul

theorem str_of_nulFree_bind {x : Except Fault String} (free : NulFree x) {param : Value}
    (converted : (x >>= fun text => pure (Value.str text)) = .ok param) :
    ∃ text, param = .str text ∧ '\x00' ∉ text.toList := by
  cases x with
  | error e => cases converted
  | ok text =>
    cases converted
    exact ⟨text, rfl, free text rfl⟩

/-- The parameter of a composite value is the string of its JSON text, which holds no NUL. -/
theorem convertParam_composite {d : Dialect} {v : Value} (composite : Dialect.isComposite v = true) {param : Value}
    (converted : d.convertParam v = .ok param) : ∃ text, param = .str text ∧ '\x00' ∉ text.toList := by
  cases v <;> simp only [Dialect.isComposite, Bool.false_eq_true] at composite <;>
    cases d <;> simp only [Dialect.convertParam, Dialect.isComposite, if_true] at converted <;>
    exact str_of_nulFree_bind (nulFree_encodeJson _ _) converted

/-! ## What a literal denotes -/

/-- A literal read whole as one numeral with a property. -/
def ReadsAsNumeral (lit : String) (holds : Numeral → Prop) : Prop :=
  ∃ num, readNumeral lit.toList = some (num, []) ∧ holds num

namespace Dialect

/-- A literal read as a string literal that holds exactly a text and ends at its closing quote,
whatever text not starting with a quote follows it. -/
def ReadsAsString (d : Dialect) (lit text : String) : Prop :=
  ∀ rest : List Char, (∀ c ∈ rest.head?, c ≠ '\'') →
    readStringLiteral d (lit.toList ++ rest) = some (text.toList, rest)

/-- The forms of a value that is no number: `NULL`, and on PostgreSQL the strings `NaN`,
`Infinity` and `-Infinity`. -/
def NonFiniteForm (d : Dialect) (lit : String) : Prop :=
  match d with
  | .postgres => ∃ text ∈ ["NaN", "Infinity", "-Infinity"], d.ReadsAsString lit text
  | _ => lit = "NULL"

/-- What the literal of a value denotes as the engine of a dialect reads it: the value itself.
A number is read as a numeral of it, a float's magnitude as one that rounds to the double; a
text as a string literal that holds it; bytes as a blob of them, on PostgreSQL as the `bytea`
text of them; a composite value as the string of its parameter; a member as its value. -/
def Denotes (d : Dialect) : Value → String → Prop
  | .none, lit => lit = "NULL"
  | .bool b, lit =>
    match d with
    | .sqlite => ReadsAsNumeral lit fun num => num.value = if b then 1 else 0
    | _ => lit = if b then "TRUE" else "FALSE"
  | .int n, lit => ReadsAsNumeral lit fun num => num.value = n
  | .float x, lit =>
    match classify x with
    | .finite negative b => ReadsAsNumeral lit fun num =>
        num.negative = negative ∧ b.RoundsTo (num.digits * 10 ^ num.exponent)
    | .zero negative => ReadsAsNumeral lit fun num => num.negative = negative ∧ num.digits = 0
    | .nan | .infinite _ => d.NonFiniteForm lit
  | .decimal (.finite negative coeff exp), lit => ReadsAsNumeral lit fun num =>
      num.negative = negative ∧ (num.digits : ℚ) * 10 ^ num.exponent = coeff * 10 ^ exp
  | .decimal _, lit => d.NonFiniteForm lit
  | .bytes bs, lit =>
    match d with
    | .postgres => ∃ text, d.ReadsAsString lit text ∧ readByteaHex text.toList = some bs
    | _ => ∀ rest, readBlobLiteral (lit.toList ++ rest) = some (bs, rest)
  | .datetime dt, lit => d.ReadsAsString lit (dt.iso " ")
  | .date x, lit => d.ReadsAsString lit x.iso
  | .time t, lit => d.ReadsAsString lit t.iso
  | .str s, lit => ∀ rest : List Char, (∀ c ∈ rest.head?, c ≠ '\'') →
      readStringLiteral d (lit.toList ++ rest) = if d.holdsString s.toList then some (s.toList, rest) else none
  | .member _ _ w, lit => d.Denotes w lit
  | v, lit => isComposite v = true ∧ ∃ text, d.convertParam v = .ok (.str text) ∧ d.ReadsAsString lit text

theorem holdsString_of_nul_not_mem (d : Dialect) {cs : List Char} (noNul : '\x00' ∉ cs) : d.holdsString cs = true := by
  simp [holdsString, noNul]

/-- The literal of a text the engine can hold reads as the text. -/
theorem readsAsString_quoteString (d : Dialect) {text : String} (held : d.holdsString text.toList = true) :
    d.ReadsAsString (d.quoteString text) text := by
  intro rest stops
  rw [d.readStringLiteral_quoteString text stops, if_pos held]

/-- Every engine holds a text without NUL, so its literal reads as the text. -/
theorem readsAsString_quoteString_of_nul_not_mem (d : Dialect) {text : String} (noNul : '\x00' ∉ text.toList) :
    d.ReadsAsString (d.quoteString text) text :=
  d.readsAsString_quoteString (d.holdsString_of_nul_not_mem noNul)

/-- A NaN or an infinity takes one of the dialect's forms; which one is hidden in the float's
opaque comparisons. -/
theorem nonFiniteForm_nonFiniteLiteral (d : Dialect) (x : Float) : d.NonFiniteForm (d.nonFiniteLiteral x) := by
  cases d with
  | postgres =>
    simp only [NonFiniteForm, nonFiniteLiteral]
    have nan : Dialect.postgres.quoteString "NaN" = "'NaN'" := by decide
    have infinity : Dialect.postgres.quoteString "Infinity" = "'Infinity'" := by decide
    have negative : Dialect.postgres.quoteString "-Infinity" = "'-Infinity'" := by decide
    split_ifs
    · exact ⟨"NaN", by simp, nan ▸ readsAsString_quoteString _ (by decide)⟩
    · exact ⟨"Infinity", by simp, infinity ▸ readsAsString_quoteString _ (by decide)⟩
    · exact ⟨"-Infinity", by simp, negative ▸ readsAsString_quoteString _ (by decide)⟩
  | sqlite => rfl
  | mysql version => rfl

/-- The literal of a value that has one of its own denotes the value, unless it is a decimal
that is no number. -/
theorem scalarLiteral_denotes (d : Dialect) {v : Value} {lit : String}
    (numeric : ∀ x, v = .decimal x → x.isFinite = true) (written : d.scalarLiteral? v = some lit) :
    d.Denotes v lit := by
  cases v
  case none =>
    cases written
    rfl
  case bool b =>
    cases written
    cases d with
    | sqlite =>
      cases b
      · exact ⟨⟨false, 0, 0⟩, by decide, by simp [Numeral.value]⟩
      · exact ⟨⟨false, 1, 0⟩, by decide, by simp [Numeral.value]⟩
    | postgres => rfl
    | mysql version => rfl
  case int n =>
    cases written
    exact readNumeral_intText n
  case float x =>
    simp only [scalarLiteral?] at written
    simp only [Denotes]
    -- the literal follows the class of the float's bits
    cases kind : classify x <;> simp only [kind, Option.some.injEq] at written <;> subst written
    case nan | infinite => exact d.nonFiniteForm_nonFiniteLiteral x
    case zero => exact readNumeral_formatFloat_zero .display kind
    case finite => exact readNumeral_formatFloat_finite .display kind
  case decimal x =>
    cases written
    cases x with
    | finite negative coeff exp => exact readNumeral_decimalText negative coeff exp
    | infinite negative => simp [Decimal.isFinite] at numeric
    | nan negative signaling payload => simp [Decimal.isFinite] at numeric
  case bytes bs =>
    cases written
    cases d with
    | postgres =>
      obtain ⟨literal, held, read⟩ := Dialect.bytesLiteral_postgres bs
      exact ⟨_, literal ▸ readsAsString_quoteString _ held, read⟩
    | sqlite => exact readBlobLiteral_bytesLiteral (by decide) bs
    | mysql version => exact readBlobLiteral_bytesLiteral (by simp) bs
  case datetime dt =>
    cases written
    exact d.readsAsString_quoteString_of_nul_not_mem (nul_not_mem_dateTimeIso dt " " (by decide))
  case date x =>
    cases written
    exact d.readsAsString_quoteString_of_nul_not_mem (nul_not_mem_dateIso x)
  case time t =>
    cases written
    exact d.readsAsString_quoteString_of_nul_not_mem (nul_not_mem_timeIso t)
  case str s =>
    cases written
    exact fun rest stops => d.readStringLiteral_quoteString s stops
  -- the rest have no literal of their own
  all_goals cases written

/-- What a composite value's literal denotes is the string of its parameter. -/
theorem denotes_of_composite (d : Dialect) {v : Value} (composite : isComposite v = true) (lit : String) :
    d.Denotes v lit ↔ ∃ text, d.convertParam v = .ok (.str text) ∧ d.ReadsAsString lit text := by
  cases v <;> simp_all [Denotes, isComposite]

/-- The literal of a value that is no member denotes the value, unless it is a decimal that is
no number. -/
theorem plainLiteral_denotes (d : Dialect) {v : Value} {lit : String}
    (numeric : ∀ x, v = .decimal x → x.isFinite = true) (quoted : d.plainLiteral v = .ok lit) :
    d.Denotes v lit := by
  unfold plainLiteral at quoted
  cases written : d.scalarLiteral? v with
  | some text =>
    rw [written] at quoted
    cases quoted
    exact scalarLiteral_denotes d numeric written
  | none =>
    rw [written] at quoted
    by_cases composite : isComposite v = true
    · -- written as the string of its parameter, the JSON text of the value
      simp only [composite, if_true] at quoted
      cases converted : d.convertParam v with
      | error e =>
        rw [converted] at quoted
        cases quoted
      | ok param =>
        rw [converted] at quoted
        obtain ⟨text, rfl, noNul⟩ := convertParam_composite composite converted
        cases quoted
        exact (d.denotes_of_composite composite _).2
          ⟨text, converted, d.readsAsString_quoteString_of_nul_not_mem noNul⟩
    · simp [composite] at quoted

end Dialect

/-! ## Main statement -/

/-- Every literal written for a value denotes it, on every dialect: a number reads as a numeral
of it, a finite float's as one that rounds to the double; a string, a calendar value's ISO text
and a composite value's JSON text read back exactly from a string literal that ends at its
closing quote, a string with NUL being read as nothing where the engine cannot hold it; bytes
read back as a blob or, on PostgreSQL, a `bytea` text; `None`, truth values, NaN and the
infinities take the dialect's forms; and a member's literal is that of its value. The one
exception is a decimal that is no number. -/
theorem inline_literals_denote_values (d : Dialect) (v : Value) {lit : String}
    (numeric : ∀ x, v.memberValue = .decimal x → x.isFinite = true) (quoted : d.quoteLiteral v = .ok lit) :
    d.Denotes v lit := by
  by_cases member : ∃ cls name w, v = .member cls name w
  · -- a member's literal is that of its value
    obtain ⟨cls, name, w, rfl⟩ := member
    show d.Denotes w lit
    exact d.plainLiteral_denotes numeric quoted
  · have kept : v.memberValue = v := by
      cases v <;> simp_all [Value.memberValue]
    rw [kept] at numeric
    rw [Dialect.quoteLiteral, kept] at quoted
    exact d.plainLiteral_denotes numeric quoted

/-- A member of an enumeration, with the decimal `1.5` for its value. -/
def ratioMember : Value := .member ⟨0, "Ratio", .enum⟩ "HALF_MORE" (.decimal (.finite false 15 (-1)))

/-- The literal of a member whose value is `Decimal("1.5")` is `1.5` on PostgreSQL, which reads as
a numeral of that value. -/
theorem ratio_member_literal_denotes :
    (∀ x, ratioMember.memberValue = .decimal x → x.isFinite = true) ∧
      Dialect.postgres.quoteLiteral ratioMember = .ok "1.5" ∧ Dialect.postgres.Denotes ratioMember "1.5" := by
  have numeric : ∀ x, ratioMember.memberValue = .decimal x → x.isFinite = true := by
    rintro x same
    cases same
    rfl
  have quoted : Dialect.postgres.quoteLiteral ratioMember = .ok "1.5" := by decide
  exact ⟨numeric, quoted, inline_literals_denote_values .postgres ratioMember numeric quoted⟩

/-- A decimal NaN is written as its bare text `NaN`, which is no literal: no string literal and
no numeral reads it, so it does not take PostgreSQL's form `'NaN'` of a value that is no number. -/
theorem decimal_nan_written_bare :
    Dialect.postgres.quoteLiteral (.decimal (.nan false false 0)) = .ok "NaN" ∧
      readNumeral "NaN".toList = none ∧ ¬ Dialect.postgres.Denotes (.decimal (.nan false false 0)) "NaN" := by
  refine ⟨by decide, by decide, ?_⟩
  rintro ⟨text, -, reads⟩
  have nothing : readStringLiteral .postgres ("NaN".toList ++ []) = none := by decide
  rw [reads [] (by simp)] at nothing
  cases nothing

end SqlMapper
