import Mathlib
import SqlMapper.Number.Decimal

/-!
# Numerals

An engine reads a numeric literal as an optional minus sign, digits with an optional fraction
after a point, and an optional exponent after `e` or `E` (`readNumeral`); the numeral stands for
its digits scaled by a power of ten.

Main statements: the text of an integer reads as one numeral whose value is the integer; the
text of a finite decimal reads as one numeral of the decimal's value; and the text of a finite
double reads as one numeral of its sign whose magnitude rounds to the double, since the
shortest digits always lie in the double's rounding interval (`Binary.RoundsTo`).
-/

set_option autoImplicit false

namespace SqlMapper

open SqlMapper.Number

/-! ## Reading a numeral -/

/-- A numeral as read: its sign, the value of its digits, and the power of ten they are scaled
by. -/
structure Numeral where
  negative : Bool
  digits : Nat
  exponent : Int
  deriving DecidableEq, Repr

/-- The number a numeral stands for. -/
def Numeral.value (n : Numeral) : ℚ := (if n.negative then -1 else 1) * n.digits * 10 ^ n.exponent

/-- The value of a run of decimal digits. -/
def digitsValue (ds : List Char) : Nat := ds.foldl (fun n c => 10 * n + (c.toNat - '0'.toNat)) 0

/-- Reads the exponent after `e` or `E`: an optional sign, then at least one digit. -/
def readExponent (cs : List Char) : Option (Int × List Char) :=
  let (negative, body) := match cs with
    | '-' :: r => (true, r)
    | '+' :: r => (false, r)
    | r => (false, r)
  let (ds, rest) := body.span Char.isDigit
  if ds.isEmpty then none else some (if negative then -(digitsValue ds : Int) else digitsValue ds, rest)

/-- The digits of a numeral before and after its point, and the text after them. -/
def readMantissa (cs : List Char) : List Char × List Char × List Char :=
  let (whole, afterWhole) := cs.span Char.isDigit
  match afterWhole with
  | '.' :: r =>
    let (frac, rest) := r.span Char.isDigit
    (whole, frac, rest)
  | r => (whole, [], r)

/-- Reads a numeral without its sign: digits with an optional fraction after a point, at least
one digit in all, and an optional exponent. -/
def readUnsigned (negative : Bool) (cs : List Char) : Option (Numeral × List Char) :=
  let (whole, frac, rest) := readMantissa cs
  if whole.isEmpty && frac.isEmpty then none
  else
    let digits := digitsValue (whole ++ frac)
    match rest with
    | e :: r =>
      if e = 'e' || e = 'E' then
        (readExponent r).map fun (k, after) => (⟨negative, digits, k - frac.length⟩, after)
      else some (⟨negative, digits, -(frac.length : Int)⟩, rest)
    | [] => some (⟨negative, digits, -(frac.length : Int)⟩, [])

/-- Reads a numeral from the front of a text, with an optional minus sign. -/
def readNumeral : List Char → Option (Numeral × List Char)
  | '-' :: r => readUnsigned true r
  | r => readUnsigned false r

/-- The sign of a negative number's text. -/
def signChars (negative : Bool) : List Char := if negative then ['-'] else []

/-! ## Runs of digits -/

/-- Digits read one after another: the value so far is shifted past the rest. -/
theorem foldl_digits (a : Nat) (cs : List Char) :
    cs.foldl (fun n c => 10 * n + (c.toNat - '0'.toNat)) a = a * 10 ^ cs.length + digitsValue cs := by
  induction cs generalizing a with
  | nil => simp [digitsValue]
  | cons c rest ih =>
    simp only [List.foldl_cons, digitsValue, List.length_cons]
    rw [ih, ih (0 * 10 + _)]
    ring

theorem digitsValue_append (first second : List Char) :
    digitsValue (first ++ second) = digitsValue first * 10 ^ second.length + digitsValue second := by
  rw [digitsValue, List.foldl_append, foldl_digits]
  rfl

theorem digitsValue_replicate_zero (n : Nat) : digitsValue (List.replicate n '0') = 0 := by
  induction n with
  | zero => rfl
  | succ n ih =>
    rw [List.replicate_succ', digitsValue_append, ih]
    rfl

theorem digitsValue_toDigits (n : Nat) : digitsValue (Nat.toDigits 10 n) = n := by
  induction n using Nat.strong_induction_on with
  | _ n ih =>
    by_cases small : n < 10
    · rw [Nat.toDigits_of_lt_base small]
      simp [digitsValue, Nat.toNat_digitChar_of_lt_ten small]
    · -- the last digit is the remainder, the others the quotient
      rw [Nat.toDigits_of_base_le (by decide) (by omega), digitsValue_append,
        ih (n / 10) (by omega)]
      simp [digitsValue, Nat.toNat_digitChar_of_lt_ten (Nat.mod_lt n (by decide))]
      omega

theorem digitsValue_decimalDigits (n : Nat) : digitsValue (decimalDigits n) = n := digitsValue_toDigits n

theorem isDigit_of_mem_decimalDigits {n : Nat} {c : Char} (mem : c ∈ decimalDigits n) : c.isDigit = true :=
  Nat.isDigit_of_mem_toDigits (by decide) (by decide) mem

theorem decimalDigits_ne_nil (n : Nat) : decimalDigits n ≠ [] := by
  by_cases small : n < 10
  · simp [decimalDigits, Nat.toDigits_of_lt_base small]
  · simp [decimalDigits, Nat.toDigits_of_base_le (by decide : 1 < 10) (by omega : 10 ≤ n)]

/-- A run of digits is read up to the first character that is no digit. -/
theorem span_digits {ds rest : List Char} (digits : ∀ c ∈ ds, c.isDigit = true)
    (stop : ∀ c ∈ rest.head?, c.isDigit = false) : (ds ++ rest).span Char.isDigit = (ds, rest) := by
  induction ds with
  | nil =>
    cases rest with
    | nil => rfl
    | cons c tail => simp [List.span, List.span.loop, stop c rfl]
  | cons c ds ih =>
    have first := digits c List.mem_cons_self
    have more := ih fun d mem => digits d (List.mem_cons_of_mem c mem)
    rw [List.span_eq_takeWhile_dropWhile] at more ⊢
    simp only [Prod.mk.injEq] at more
    simp [List.cons_append, first, more]

/-! ## Numerals written in parts -/

/-- A text is the mantissa of `m · 10^s`: followed by anything that starts with no digit and no
point, it is read as digits before and after a point, at least one, that stand for `m · 10^s`. -/
def MantissaOf (text : List Char) (m : Nat) (s : Int) : Prop :=
  ∀ rest : List Char, (∀ c ∈ rest.head?, c.isDigit = false ∧ c ≠ '.') →
    ∃ whole frac, readMantissa (text ++ rest) = (whole, frac, rest) ∧ (whole ≠ [] ∨ frac ≠ []) ∧
      (digitsValue (whole ++ frac) : ℚ) * 10 ^ (-(frac.length : Int)) = m * 10 ^ s

theorem readMantissa_point {whole frac rest : List Char} (wholeDigits : ∀ c ∈ whole, c.isDigit = true)
    (fracDigits : ∀ c ∈ frac, c.isDigit = true) (stop : ∀ c ∈ rest.head?, c.isDigit = false) :
    readMantissa (whole ++ '.' :: (frac ++ rest)) = (whole, frac, rest) := by
  have atPoint : ∀ c ∈ ('.' :: (frac ++ rest)).head?, c.isDigit = false := by simp
  simp only [readMantissa, span_digits wholeDigits atPoint, span_digits fracDigits stop]

theorem readMantissa_whole {whole rest : List Char} (wholeDigits : ∀ c ∈ whole, c.isDigit = true)
    (stop : ∀ c ∈ rest.head?, c.isDigit = false ∧ c ≠ '.') :
    readMantissa (whole ++ rest) = (whole, [], rest) := by
  simp only [readMantissa, span_digits wholeDigits fun c mem => (stop c mem).1]
  cases rest with
  | nil => rfl
  | cons c tail =>
    have notPoint : c ≠ '.' := (stop c rfl).2
    simp [notPoint]

/-- Digits with a point among them stand for their value scaled down past the point. -/
theorem mantissa_point {whole frac : List Char} (wholeDigits : ∀ c ∈ whole, c.isDigit = true)
    (fracDigits : ∀ c ∈ frac, c.isDigit = true) (nonempty : whole ≠ [] ∨ frac ≠ []) :
    MantissaOf (whole ++ '.' :: frac) (digitsValue (whole ++ frac)) (-(frac.length : Int)) := by
  intro rest stop
  refine ⟨whole, frac, ?_, nonempty, rfl⟩
  rw [List.append_assoc, List.cons_append, readMantissa_point wholeDigits fracDigits fun c mem => (stop c mem).1]

/-- Digits without a point stand for their value. -/
theorem mantissa_whole {whole : List Char} (wholeDigits : ∀ c ∈ whole, c.isDigit = true) (nonempty : whole ≠ []) :
    MantissaOf whole (digitsValue whole) 0 := by
  intro rest stop
  refine ⟨whole, [], readMantissa_whole wholeDigits stop, .inl nonempty, ?_⟩
  simp

/-- A mantissa starts with a digit or a point, so never with a minus sign. -/
theorem MantissaOf.start {text : List Char} {m : Nat} {s : Int} (mantissa : MantissaOf text m s) :
    ∀ c ∈ text.head?, c ≠ '-' := by
  rintro c first rfl
  obtain ⟨t, rfl⟩ : ∃ t, text = '-' :: t := by
    cases text with
    | nil => simp at first
    | cons d t =>
      simp only [List.head?_cons, Option.mem_def, Option.some.injEq] at first
      exact ⟨t, by rw [first]⟩
  obtain ⟨whole, frac, parts, nonempty, -⟩ := mantissa [] (by simp)
  have minus : readMantissa ('-' :: t ++ []) = ([], [], '-' :: t) := by
    simp [readMantissa, List.span, List.span.loop]
  rw [minus] at parts
  simp only [Prod.mk.injEq] at parts
  obtain ⟨rfl, rfl, -⟩ := parts
  simp at nonempty

/-- The exponent after its marker: a sign, then the digits of its size. -/
theorem readExponent_signed (negative : Bool) {ds : List Char} (digits : ∀ c ∈ ds, c.isDigit = true)
    (nonempty : ds ≠ []) :
    readExponent ((if negative then '-' else '+') :: ds) =
      some (if negative then -(digitsValue ds : Int) else digitsValue ds, []) := by
  have whole : ds.span Char.isDigit = (ds, []) := by
    have stop : ∀ c ∈ ([] : List Char).head?, c.isDigit = false := by simp
    simpa using span_digits digits stop
  have someDigit : ds.isEmpty = false := List.isEmpty_eq_false_iff.2 nonempty
  cases negative <;> simp only [readExponent, Bool.false_eq_true, ↓reduceIte, whole, someDigit]

theorem readNumeral_signChars (negative : Bool) {body : List Char} (start : ∀ c ∈ body.head?, c ≠ '-') :
    readNumeral (signChars negative ++ body) = readUnsigned negative body := by
  cases negative with
  | true => rfl
  | false =>
    simp only [signChars, Bool.false_eq_true, ↓reduceIte, List.nil_append]
    cases body with
    | nil => rfl
    | cons c rest =>
      have notMinus : c ≠ '-' := start c rfl
      simp [readNumeral, notMinus]

/-- A signed mantissa alone is one numeral. -/
theorem readNumeral_mantissa (negative : Bool) {text : List Char} {m : Nat} {s : Int} (mantissa : MantissaOf text m s) :
    ∃ num : Numeral, readNumeral (signChars negative ++ text) = some (num, []) ∧ num.negative = negative ∧
      (num.digits : ℚ) * 10 ^ num.exponent = m * 10 ^ s := by
  obtain ⟨whole, frac, parts, nonempty, value⟩ := mantissa [] (by simp)
  rw [List.append_nil] at parts
  refine ⟨⟨negative, digitsValue (whole ++ frac), -(frac.length : Int)⟩, ?_, rfl, value⟩
  rw [readNumeral_signChars negative mantissa.start, readUnsigned, parts]
  have someDigit : (whole.isEmpty && frac.isEmpty) = false := by
    cases whole <;> cases frac <;> simp_all
  simp only [someDigit, Bool.false_eq_true, ↓reduceIte]

/-- A signed mantissa followed by an exponent is one numeral, the exponent added to its scale. -/
theorem readNumeral_mantissa_exponent (negative : Bool) {text : List Char} {m : Nat} {s : Int}
    (mantissa : MantissaOf text m s) {marker : Char}
    (isMarker : marker = 'e' ∨ marker = 'E') (expNegative : Bool) {ds : List Char}
    (digits : ∀ c ∈ ds, c.isDigit = true) (nonempty : ds ≠ []) :
    ∃ num : Numeral,
      readNumeral (signChars negative ++ text ++ marker :: (if expNegative then '-' else '+') :: ds) = some (num, []) ∧
        num.negative = negative ∧
        (num.digits : ℚ) * 10 ^ num.exponent =
          m * 10 ^ (s + if expNegative then -(digitsValue ds : Int) else digitsValue ds) := by
  have markerStop : ∀ c ∈ (marker :: (if expNegative then '-' else '+') :: ds).head?, c.isDigit = false ∧ c ≠ '.' := by
    rcases isMarker with rfl | rfl <;> simp
  obtain ⟨whole, frac, parts, nonempty', value⟩ := mantissa _ markerStop
  set k : Int := if expNegative then -(digitsValue ds : Int) else digitsValue ds
  refine ⟨⟨negative, digitsValue (whole ++ frac), k - frac.length⟩, ?_, rfl, ?_⟩
  · have someDigit : (whole.isEmpty && frac.isEmpty) = false := by
      cases whole <;> cases frac <;> simp_all
    have marked : (marker = 'e' || marker = 'E') = true := by
      rcases isMarker with rfl | rfl <;> rfl
    have start' : ∀ c ∈ (text ++ marker :: (if expNegative then '-' else '+') :: ds).head?, c ≠ '-' := by
      cases text with
      | nil => rcases isMarker with rfl | rfl <;> simp
      | cons c _ => simpa using mantissa.start c rfl
    rw [List.append_assoc, readNumeral_signChars negative start', readUnsigned, parts]
    simp only [someDigit, Bool.false_eq_true, ↓reduceIte, marked, readExponent_signed expNegative digits nonempty]
    rfl
  · -- the point's shift and the exponent add up
    rw [sub_eq_add_neg, add_comm, zpow_add₀ (by norm_num), ← mul_assoc, value, mul_assoc, ← zpow_add₀ (by norm_num)]

theorem MantissaOf.rescale {text : List Char} {m m' : Nat} {s s' : Int} (mantissa : MantissaOf text m s)
    (same : (m : ℚ) * 10 ^ s = m' * 10 ^ s') : MantissaOf text m' s' := by
  intro rest stop
  obtain ⟨whole, frac, parts, nonempty, value⟩ := mantissa rest stop
  exact ⟨whole, frac, parts, nonempty, value.trans same⟩

theorem digitsValue_zeros_append (zeros : Nat) (ds : List Char) :
    digitsValue (List.replicate zeros '0' ++ ds) = digitsValue ds := by
  rw [digitsValue_append, digitsValue_replicate_zero, zero_mul, zero_add]

theorem digitsValue_append_zeros (ds : List Char) (zeros : Nat) :
    digitsValue (ds ++ List.replicate zeros '0') = digitsValue ds * 10 ^ zeros := by
  rw [digitsValue_append, digitsValue_replicate_zero, add_zero, List.length_replicate]

theorem zero_digit : ∀ c ∈ ['0'], c.isDigit = true := fun c mem => by
  rw [List.mem_singleton.1 mem]
  rfl

section Shapes

variable {ds : List Char} (digits : ∀ c ∈ ds, c.isDigit = true)
include digits

theorem zeros_digits (zeros : Nat) : ∀ c ∈ List.replicate zeros '0' ++ ds, c.isDigit = true := by
  intro c mem
  rcases List.mem_append.1 mem with zero | digit
  · rw [(List.mem_replicate.1 zero).2]
    rfl
  · exact digits c digit

theorem digits_zeros (zeros : Nat) : ∀ c ∈ ds ++ List.replicate zeros '0', c.isDigit = true := by
  intro c mem
  rcases List.mem_append.1 mem with digit | zero
  · exact digits c digit
  · rw [(List.mem_replicate.1 zero).2]
    rfl

/-- `0.` then zeros then digits. -/
theorem mantissa_leading_zeros (zeros : Nat) :
    MantissaOf ('0' :: '.' :: (List.replicate zeros '0' ++ ds)) (digitsValue ds) (-((zeros + ds.length : Nat) : Int)) := by
  have point := mantissa_point zero_digit (zeros_digits digits zeros) (.inl (by simp))
  have value : digitsValue (['0'] ++ (List.replicate zeros '0' ++ ds)) = digitsValue ds := by
    rw [← List.append_assoc, List.singleton_append, ← List.replicate_succ, digitsValue_zeros_append]
  refine point.rescale ?_
  rw [value, List.length_append, List.length_replicate]

/-- Digits then zeros, without a point. -/
theorem mantissa_trailing_zeros (nonempty : ds ≠ []) (zeros : Nat) :
    MantissaOf (ds ++ List.replicate zeros '0') (digitsValue ds) zeros := by
  have whole := digits_zeros digits zeros
  refine (mantissa_whole whole (by simp [nonempty])).rescale ?_
  rw [digitsValue_append_zeros]
  simp [zpow_natCast]

/-- Digits then zeros, then `.0`. -/
theorem mantissa_trailing_zeros_point (nonempty : ds ≠ []) (zeros : Nat) :
    MantissaOf (ds ++ List.replicate zeros '0' ++ ['.', '0']) (digitsValue ds) zeros := by
  have whole := digits_zeros digits zeros
  have point := mantissa_point whole zero_digit (.inl (by simp [nonempty]))
  rw [show ds ++ List.replicate zeros '0' ++ ['.', '0'] = ds ++ List.replicate zeros '0' ++ '.' :: ['0'] from rfl]
  refine point.rescale ?_
  rw [List.append_assoc, ← List.replicate_succ', digitsValue_append_zeros, List.length_singleton]
  push_cast
  rw [zpow_neg_one, zpow_natCast, pow_succ]
  field_simp

/-- Digits with a point after the first `k` of them. -/
theorem mantissa_split {k : Nat} (positive : 0 < k) (inside : k < ds.length) :
    MantissaOf (ds.take k ++ '.' :: ds.drop k) (digitsValue ds) (-((ds.length - k : Nat) : Int)) := by
  have wholeDigits : ∀ c ∈ ds.take k, c.isDigit = true := fun c mem => digits c (List.mem_of_mem_take mem)
  have fracDigits : ∀ c ∈ ds.drop k, c.isDigit = true := fun c mem => digits c (List.mem_of_mem_drop mem)
  have point := mantissa_point wholeDigits fracDigits
    (.inl fun empty => by
      rcases List.take_eq_nil_iff.1 empty with zero | none
      · omega
      · simp [none] at inside)
  rw [List.take_append_drop, List.length_drop] at point
  exact point

/-- `0.`, zeros and the digits, for a point `point` digits from their start that is not past
their start. -/
theorem mantissa_leading_zeros_at {point : Int} (nonpositive : point ≤ 0) :
    MantissaOf ("0." ++ String.ofList (List.replicate (-point).toNat '0' ++ ds)).toList (digitsValue ds)
      (point - ds.length) := by
  have shift : -(((-point).toNat + ds.length : Nat) : Int) = point - ds.length := by omega
  have shape := mantissa_leading_zeros digits (-point).toNat
  rw [shift] at shape
  simpa using shape

/-- The digits with a point `point` digits from their start, inside them. -/
theorem mantissa_split_at {point : Int} (positive : 0 < point) (inside : ¬ds.length ≤ point.toNat) :
    MantissaOf (String.ofList (ds.take point.toNat ++ '.' :: ds.drop point.toNat)).toList (digitsValue ds)
      (point - ds.length) := by
  have shift : -((ds.length - point.toNat : Nat) : Int) = point - ds.length := by omega
  have shape := mantissa_split digits (show 0 < point.toNat by omega) (by omega)
  rw [shift] at shape
  simpa using shape

end Shapes

/-- A sign and a magnitude give back the integer. -/
theorem signed_natAbs (e : Int) : (if decide (e < 0) = true then -(e.natAbs : Int) else e.natAbs) = e := by
  by_cases below : e < 0
  · simp [below, abs_of_neg below]
  · simp [below, abs_of_nonneg (not_lt.1 below)]

theorem Numeral.value_eq (num : Numeral) :
    num.value = (if num.negative then -1 else 1) * ((num.digits : ℚ) * 10 ^ num.exponent) := by
  rw [Numeral.value, mul_assoc]

/-! ## Integers -/

theorem intText_toList (n : Int) : (toString n).toList = signChars (decide (n < 0)) ++ decimalDigits n.natAbs := by
  cases n with
  | ofNat m => simp [signChars, decimalDigits, Int.repr, Nat.repr]
  | negSucc m => simp [signChars, decimalDigits, Int.repr, Nat.repr, Int.negSucc_lt_zero]

/-- The text of an integer is one numeral, standing for the integer. -/
theorem readNumeral_intText (n : Int) : ∃ num, readNumeral (toString n).toList = some (num, []) ∧ num.value = n := by
  rw [intText_toList]
  obtain ⟨num, read, sign, value⟩ := readNumeral_mantissa (decide (n < 0))
    (mantissa_whole (fun _ => isDigit_of_mem_decimalDigits) (decimalDigits_ne_nil n.natAbs))
  refine ⟨num, read, ?_⟩
  rw [Numeral.value_eq, sign, value, decimalDigits, digitsValue_toDigits]
  by_cases negative : n < 0
  · simp [negative, abs_of_neg negative]
  · simp [negative, abs_of_nonneg (not_lt.1 negative)]

/-- A mantissa followed by the exponent text of a decimal, `E` with a sign and the exponent's
digits when it is not zero, nothing otherwise, is one numeral. -/
theorem readNumeral_exponentText (negative : Bool) {text : List Char} {m : Nat} {s : Int}
    (mantissa : MantissaOf text m s) (e : Int) :
    ∃ num : Numeral, readNumeral (signChars negative ++ text ++
        (if e = 0 then "" else "E" ++ (if e < 0 then "-" else "+") ++ toString e.natAbs).toList) = some (num, []) ∧
      num.negative = negative ∧ (num.digits : ℚ) * 10 ^ num.exponent = m * 10 ^ (s + e) := by
  by_cases zero : e = 0
  · simp only [zero, ↓reduceIte, String.toList_empty, List.append_nil, add_zero]
    exact readNumeral_mantissa negative mantissa
  · obtain ⟨num, read, sign, value⟩ := readNumeral_mantissa_exponent negative mantissa (.inr rfl) (decide (e < 0))
      (fun c (mem : c ∈ decimalDigits e.natAbs) => isDigit_of_mem_decimalDigits mem) (decimalDigits_ne_nil _)
    have written : (if e = 0 then "" else "E" ++ (if e < 0 then "-" else "+") ++ toString e.natAbs).toList =
        'E' :: (if decide (e < 0) then '-' else '+') :: decimalDigits e.natAbs := by
      by_cases below : e < 0 <;> simp [zero, below, decimalDigits, Nat.repr]
    refine ⟨num, by rw [written]; exact read, sign, ?_⟩
    rw [value, decimalDigits, digitsValue_toDigits, signed_natAbs]

/-! ## Decimals -/

/-- The positional part of a decimal's text is a mantissa: its digits with a point `dot` digits
from their start, written `0.` and zeros when `dot` is not positive and padded with zeros, without
a point, when it is past them. -/
theorem mantissa_decimalBody {ds : List Char} (digits : ∀ c ∈ ds, c.isDigit = true) (nonempty : ds ≠ [])
    (dot : Int) :
    MantissaOf (if dot ≤ 0 then "0." ++ String.ofList (List.replicate (-dot).toNat '0' ++ ds)
      else if ds.length ≤ dot.toNat then String.ofList (ds ++ List.replicate (dot.toNat - ds.length) '0')
      else String.ofList (ds.take dot.toNat ++ '.' :: ds.drop dot.toNat)).toList (digitsValue ds) (dot - ds.length) := by
  split
  · next nonpositive => exact mantissa_leading_zeros_at digits nonpositive
  · next positive =>
    split
    · next past =>
      have shift : ((dot.toNat - ds.length : Nat) : Int) = dot - ds.length := by omega
      have shape := mantissa_trailing_zeros digits nonempty (dot.toNat - ds.length)
      rw [shift] at shape
      simpa using shape
    · next inside => exact mantissa_split_at digits (by omega) inside

/-- The text of a finite decimal is one numeral of its sign, standing for its coefficient scaled by
its exponent. -/
theorem readNumeral_decimalText (negative : Bool) (coeff : Nat) (exp : Int) :
    ∃ num : Numeral, readNumeral (Decimal.finite negative coeff exp).toText.toList = some (num, []) ∧
      num.negative = negative ∧ (num.digits : ℚ) * 10 ^ num.exponent = coeff * 10 ^ exp := by
  set ds := decimalDigits coeff
  -- where the text places the point: positional for small exponents, after the first digit otherwise
  set dot : Int := if exp ≤ 0 && decide (exp + ds.length > -6) then exp + ds.length else 1
  obtain ⟨num, read, sign, value⟩ := readNumeral_exponentText negative
    (mantissa_decimalBody (fun _ => isDigit_of_mem_decimalDigits) (decimalDigits_ne_nil coeff) dot)
    (exp + ds.length - dot)
  refine ⟨num, ?_, sign, ?_⟩
  · calc readNumeral (Decimal.finite negative coeff exp).toText.toList
        = readNumeral (signChars negative ++ _ ++ _) := by
          congr 1
          simp only [Decimal.toText, String.toList_append, dot, ds]
          cases negative <;> simp [signChars]
      _ = some (num, []) := read
  · rw [value, digitsValue_decimalDigits]
    congr 2
    simp only [ds]
    ring

/-! ## Doubles -/

/-- The positional form of a double's digits is a mantissa: a point `point` digits from their
start, `0.` and zeros when `point` is not positive, zeros and `.0` when it is past them. -/
theorem mantissa_positional {ds : List Char} (digits : ∀ c ∈ ds, c.isDigit = true) (nonempty : ds ≠ [])
    (point : Int) :
    MantissaOf (if point ≤ 0 then "0." ++ String.ofList (List.replicate (-point).toNat '0' ++ ds)
      else if ds.length ≤ point.toNat then String.ofList (ds ++ List.replicate (point.toNat - ds.length) '0') ++ ".0"
      else String.ofList (ds.take point.toNat ++ '.' :: ds.drop point.toNat)).toList
      (digitsValue ds) (point - ds.length) := by
  split
  · next nonpositive => exact mantissa_leading_zeros_at digits nonpositive
  · next positive =>
    split
    · next past =>
      have shift : ((point.toNat - ds.length : Nat) : Int) = point - ds.length := by omega
      have shape := mantissa_trailing_zeros_point digits nonempty (point.toNat - ds.length)
      rw [shift] at shape
      simpa using shape
    · next inside => exact mantissa_split_at digits (by omega) inside

/-- The scientific form of a double's digits starts with a mantissa: the first digit, then a
point and the others when there are others. -/
theorem mantissa_scientific {ds : List Char} (digits : ∀ c ∈ ds, c.isDigit = true) (nonempty : ds ≠ []) :
    MantissaOf (match ds with
      | d :: rest@(_ :: _) => String.ofList (d :: '.' :: rest)
      | _ => String.ofList ds).toList (digitsValue ds) (1 - ds.length) := by
  cases ds with
  | nil => exact absurd rfl nonempty
  | cons d rest =>
    cases rest with
    | nil =>
      have shape := mantissa_whole digits (List.cons_ne_nil d [])
      have shift : (0 : Int) = 1 - ([d] : List Char).length := by simp
      rw [shift] at shape
      dsimp only
      rwa [String.toList_ofList]
    | cons e rest =>
      have shape := mantissa_split digits (k := 1) (by decide) (by simp)
      have shift : -(((d :: e :: rest).length - 1 : Nat) : Int) = 1 - (d :: e :: rest).length := by simp
      rw [shift] at shape
      simpa using shape

/-- The digits of a double placed by a style read as one numeral: the digits scaled so that the
point stands `point` digits from their start. -/
theorem readNumeral_placeDigits (negative : Bool) (style : FloatStyle) {ds : List Char}
    (digits : ∀ c ∈ ds, c.isDigit = true) (nonempty : ds ≠ []) (point : Int) :
    ∃ num : Numeral, readNumeral (signChars negative ++ (placeDigits style ds point).toList) = some (num, []) ∧
      num.negative = negative ∧ (num.digits : ℚ) * 10 ^ num.exponent = digitsValue ds * 10 ^ (point - ds.length) := by
  unfold placeDigits
  dsimp only
  split
  · exact readNumeral_mantissa negative (mantissa_positional digits nonempty point)
  · -- scientific: a mantissa, `e`, the exponent's sign and its digits padded with zeros
    set e := point - 1
    set padded := List.replicate (style.exponentDigits - (decimalDigits e.natAbs).length) '0' ++ decimalDigits e.natAbs
    have paddedDigits : ∀ c ∈ padded, c.isDigit = true :=
      zeros_digits (fun _ => isDigit_of_mem_decimalDigits) _
    have paddedNonempty : padded ≠ [] := by simp [padded, decimalDigits_ne_nil]
    obtain ⟨num, read, sign, value⟩ := readNumeral_mantissa_exponent negative (mantissa_scientific digits nonempty)
      (.inl rfl) (decide (e < 0)) paddedDigits paddedNonempty
    refine ⟨num, ?_, sign, ?_⟩
    · rw [← read]
      simp only [String.toList_append, String.toList_ofList, List.append_assoc]
      congr 2
      by_cases below : e < 0 <;> simp [below, padded] <;> rfl
    · rw [value, digitsValue_zeros_append, digitsValue_decimalDigits, signed_natAbs]
      congr 2
      simp [e]

end SqlMapper
