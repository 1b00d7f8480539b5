import Mathlib
import SqlMapper.Dialect.Basic

/-!
# NUL characters in stored JSON text

Engines that keep text free of NUL characters store the JSON text of a value
with every escaped NUL spelled out: `substituteNul` doubles the backslash of
each `\u0000` escape, so that the stored text holds the six characters of the
escape instead of a NUL. It tells an escape from text that only looks like one
by the parity of the run of backslashes before it.

The main statement: on SQLite and PostgreSQL the JSON text of a value is the
text `json.dumps` writes for the same value with every NUL of every string,
key and text form spelled as those six characters, and nothing else changed;
no text the substitution writes holds an escape of NUL; MySQL stores the text
as it is dumped.

The substitution reads its input left to right with the number of backslashes
pending, so the proof runs it in front of any continuation (`SpelledAs`): the
JSON text of each part of a value, followed by anything, is rewritten into the
text of the spelled part followed by the rewritten rest.
-/

set_option autoImplicit false

namespace SqlMapper

/-! ## The substitution, step by step -/

/-- The backslashes written back before `\u0000` when `pending` of them were read:
one more when the escape is real, that is when `pending` is odd. -/
def keptBackslashes (pending : Nat) : Nat :=
  if pending ≥ 1 && (pending - 1) % 2 == 0 then pending + 1 else pending

theorem keptBackslashes_eq (pending : Nat) :
    keptBackslashes pending = if pending % 2 = 1 then pending + 1 else pending := by
  unfold keptBackslashes
  congr 1
  simp only [ge_iff_le, Bool.and_eq_true, decide_eq_true_eq, beq_iff_eq, eq_iff_iff]
  omega

theorem keptBackslashes_even (pending : Nat) : keptBackslashes pending % 2 = 0 := by
  rw [keptBackslashes_eq]
  split <;> omega

/-- An even number of backslashes more before the escape are kept as they are. -/
theorem keptBackslashes_add_even {extra : Nat} (even : extra % 2 = 0) (pending : Nat) :
    keptBackslashes (extra + pending) = extra + keptBackslashes pending := by
  rw [keptBackslashes_eq, keptBackslashes_eq]
  by_cases odd : pending % 2 = 1
  · rw [if_pos (by omega), if_pos odd]
    omega
  · rw [if_neg (by omega), if_neg odd]

theorem substituteNulChars_backslash (pending : Nat) (rest : List Char) :
    substituteNulChars pending ('\\' :: rest) = substituteNulChars (pending + 1) rest := by
  simp [substituteNulChars]

theorem substituteNulChars_escape (pending : Nat) (rest : List Char) :
    substituteNulChars pending ('u' :: '0' :: '0' :: '0' :: '0' :: rest) =
      List.replicate (keptBackslashes pending) '\\' ++ ['u', '0', '0', '0', '0'] ++
        substituteNulChars 0 rest := by
  simp [substituteNulChars, keptBackslashes]

/-- A character that starts no backslash run and no `u0000` is written after the
pending backslashes. -/
theorem substituteNulChars_plain (pending : Nat) {c : Char} (rest : List Char) (notBackslash : c ≠ '\\')
    (notEscape : ∀ tail, c :: rest ≠ 'u' :: '0' :: '0' :: '0' :: '0' :: tail) :
    substituteNulChars pending (c :: rest) =
      List.replicate pending '\\' ++ c :: substituteNulChars 0 rest := by
  refine substituteNulChars.eq_3 pending c rest notBackslash fun tail isU isZeros => ?_
  exact notEscape tail (by rw [isU, isZeros])

theorem substituteNulChars_nil (pending : Nat) :
    substituteNulChars pending [] = List.replicate pending '\\' := by
  simp [substituteNulChars]

/-- With no backslash pending, a character other than a backslash is written as it
is: even `u0000` comes out unchanged. -/
theorem substituteNulChars_zero_cons {c : Char} (rest : List Char) (notBackslash : c ≠ '\\') :
    substituteNulChars 0 (c :: rest) = c :: substituteNulChars 0 rest := by
  by_cases escape : ∃ tail, c :: rest = 'u' :: '0' :: '0' :: '0' :: '0' :: tail
  · obtain ⟨tail, same⟩ := escape
    rw [same, substituteNulChars_escape]
    obtain ⟨rfl, rfl⟩ := List.cons.inj same
    simp [keptBackslashes, substituteNulChars_plain 0 _ (by decide : ('0' : Char) ≠ '\\')
      (fun t h => by simp at h)]
  · push Not at escape
    rw [substituteNulChars_plain 0 rest notBackslash escape]
    rfl

/-- An even number of pending backslashes is written back as it is read: such a
run escapes nothing after it. -/
theorem substituteNulChars_add_even {extra : Nat} (even : extra % 2 = 0) (pending : Nat) (cs : List Char) :
    substituteNulChars (extra + pending) cs =
      List.replicate extra '\\' ++ substituteNulChars pending cs := by
  induction cs generalizing pending with
  | nil => rw [substituteNulChars_nil, substituteNulChars_nil, List.replicate_add]
  | cons c rest ih =>
    by_cases backslash : c = '\\'
    · subst backslash
      rw [substituteNulChars_backslash, substituteNulChars_backslash, Nat.add_assoc, ih]
    by_cases escape : ∃ tail, c :: rest = 'u' :: '0' :: '0' :: '0' :: '0' :: tail
    · -- the escape is real after `extra + pending` backslashes exactly when after `pending`
      obtain ⟨tail, same⟩ := escape
      rw [same, substituteNulChars_escape, substituteNulChars_escape, keptBackslashes_add_even even,
        List.replicate_add]
      simp only [List.append_assoc]
    · push Not at escape
      rw [substituteNulChars_plain _ _ backslash escape, substituteNulChars_plain _ _ backslash escape,
        List.replicate_add, List.append_assoc]

/-- With a backslash pending, the text written starts with a backslash. -/
theorem substituteNulChars_starts_backslash {pending : Nat} (some : 1 ≤ pending) (cs : List Char) :
    ∃ written, substituteNulChars pending cs = '\\' :: written := by
  obtain ⟨fewer, rfl⟩ : ∃ fewer, pending = fewer + 1 := ⟨pending - 1, by omega⟩
  induction cs generalizing fewer with
  | nil => exact ⟨_, by rw [substituteNulChars_nil, List.replicate_succ]⟩
  | cons c rest ih =>
    by_cases backslash : c = '\\'
    · subst backslash
      rw [substituteNulChars_backslash]
      exact ih (fewer + 1) (by omega)
    by_cases escape : ∃ tail, c :: rest = 'u' :: '0' :: '0' :: '0' :: '0' :: tail
    · obtain ⟨tail, same⟩ := escape
      have more : keptBackslashes (fewer + 1) = keptBackslashes (fewer + 1) - 1 + 1 := by
        unfold keptBackslashes
        split <;> omega
      rw [same, substituteNulChars_escape, more, List.replicate_succ]
      exact ⟨_, rfl⟩
    · push Not at escape
      rw [substituteNulChars_plain _ _ backslash escape, List.replicate_succ]
      exact ⟨_, rfl⟩

/-- A written `0` with no backslash pending was read as a `0`. -/
theorem substituteNulChars_zero_eq_zero {rest written : List Char}
    (starts : substituteNulChars 0 rest = '0' :: written) :
    ∃ tail, rest = '0' :: tail ∧ written = substituteNulChars 0 tail := by
  cases rest with
  | nil => simp [substituteNulChars_nil] at starts
  | cons c tail =>
    by_cases backslash : c = '\\'
    · subst backslash
      rw [substituteNulChars_backslash] at starts
      obtain ⟨other, same⟩ := substituteNulChars_starts_backslash (by omega : 1 ≤ 0 + 1) tail
      rw [same] at starts
      cases starts
    · rw [substituteNulChars_zero_cons _ backslash] at starts
      obtain ⟨rfl, rfl⟩ := List.cons.inj starts
      exact ⟨tail, rfl, rfl⟩

/-! ## Escapes of NUL -/

/-- Whether JSON text holds an escape of NUL. Read from the left, a backslash
escapes the character after it, and `\u0000` is the escape of NUL. -/
def escapesNul : List Char → Bool
  | '\\' :: 'u' :: '0' :: '0' :: '0' :: '0' :: _ => true
  | '\\' :: _ :: rest => escapesNul rest
  | _ :: rest => escapesNul rest
  | [] => false

theorem escapesNul_plain {c : Char} (rest : List Char) (notBackslash : c ≠ '\\') :
    escapesNul (c :: rest) = escapesNul rest := by
  exact escapesNul.eq_3 c rest (fun _ backslash _ => notBackslash backslash)
    (fun _ _ backslash _ => notBackslash backslash)

/-- A backslash followed by anything but the rest of a NUL escape escapes that character only. -/
theorem escapesNul_escaped (c : Char) (rest : List Char)
    (notNul : ∀ tail, c :: rest ≠ 'u' :: '0' :: '0' :: '0' :: '0' :: tail) :
    escapesNul ('\\' :: c :: rest) = escapesNul rest := by
  refine escapesNul.eq_2 c rest fun tail isU isZeros => ?_
  exact notNul tail (by rw [isU, isZeros])

/-- An even run of backslashes is read as that many escaped backslashes. -/
theorem escapesNul_even_run {count : Nat} (even : count % 2 = 0) (rest : List Char) :
    escapesNul (List.replicate count '\\' ++ rest) = escapesNul rest := by
  obtain ⟨pairs, rfl⟩ : ∃ pairs, count = 2 * pairs := ⟨count / 2, by omega⟩
  induction pairs with
  | zero => rfl
  | succ pairs ih =>
    rw [show 2 * (pairs + 1) = 2 * pairs + 1 + 1 by omega, List.replicate_succ, List.replicate_succ,
      List.cons_append, List.cons_append, escapesNul_escaped '\\' _ (fun tail same => by simp at same)]
    exact ih (by omega)

theorem escapesNul_backslashes (count : Nat) : escapesNul (List.replicate count '\\') = false := by
  rcases Nat.mod_two_eq_zero_or_one count with even | odd
  · rw [← List.append_nil (List.replicate count '\\'), escapesNul_even_run even]
    rfl
  · have split : count = count - 1 + 1 := by omega
    rw [split, List.replicate_succ', escapesNul_even_run (by omega)]
    rfl

/-- No text the substitution writes holds an escape of NUL, whatever it read:
a run of backslashes before `u0000` is written back even. -/
theorem escapesNul_substituteNulChars (pending : Nat) (cs : List Char) :
    escapesNul (substituteNulChars pending cs) = false := by
  induction cs generalizing pending with
  | nil => rw [substituteNulChars_nil, escapesNul_backslashes]
  | cons c rest ih =>
    by_cases backslash : c = '\\'
    · subst backslash
      rw [substituteNulChars_backslash]
      exact ih (pending + 1)
    by_cases escape : ∃ tail, c :: rest = 'u' :: '0' :: '0' :: '0' :: '0' :: tail
    · -- the kept run is even, and the four zeros after it are read as they are
      obtain ⟨tail, same⟩ := escape
      obtain ⟨rfl, rfl⟩ := List.cons.inj same
      have zeros : ∀ written, escapesNul (['0', '0', '0', '0'] ++ written) = escapesNul written := by
        intro written
        simp only [List.cons_append, List.nil_append]
        repeat rw [escapesNul_plain _ (by decide)]
      have readTail := ih 0
      simp only [substituteNulChars_zero_cons _ (by decide : ('0' : Char) ≠ '\\')] at readTail
      rw [substituteNulChars_escape, List.append_assoc, escapesNul_even_run (keptBackslashes_even _),
        List.cons_append, escapesNul_plain _ (by decide), zeros]
      simpa [escapesNul_plain] using readTail
    · push Not at escape
      rw [substituteNulChars_plain _ _ backslash escape]
      rcases Nat.mod_two_eq_zero_or_one pending with even | odd
      · rw [escapesNul_even_run even, escapesNul_plain _ backslash]
        exact ih 0
      · -- an odd run escapes `c`; the text after it cannot complete a NUL escape
        have split : pending = pending - 1 + 1 := by omega
        rw [split, List.replicate_succ', List.append_assoc, escapesNul_even_run (by omega),
          List.singleton_append, escapesNul_escaped c _ ?_]
        · exact ih 0
        · intro tail same
          obtain ⟨rfl, written⟩ := List.cons.inj same
          obtain ⟨r1, rfl, w1⟩ := substituteNulChars_zero_eq_zero written
          obtain ⟨r2, rfl, w2⟩ := substituteNulChars_zero_eq_zero w1.symm
          obtain ⟨r3, rfl, w3⟩ := substituteNulChars_zero_eq_zero w2.symm
          obtain ⟨r4, rfl, -⟩ := substituteNulChars_zero_eq_zero w3.symm
          exact escape r4 rfl

/-! ## Spelled text -/

/-- `written` is what the substitution makes of `read`, whatever text follows:
read before any `rest`, it is written before the substitution of `rest`. -/
def SpelledAs (read written : List Char) : Prop :=
  ∀ rest, substituteNulChars 0 (read ++ rest) = written ++ substituteNulChars 0 rest

namespace SpelledAs

theorem nil : SpelledAs [] [] := fun _ => rfl

theorem append {read read' written written' : List Char} (first : SpelledAs read written)
    (second : SpelledAs read' written') : SpelledAs (read ++ read') (written ++ written') := by
  intro rest
  rw [List.append_assoc, first, second, List.append_assoc]

/-- The substitution of spelled text, with nothing after it. -/
theorem eq {read written : List Char} (spelled : SpelledAs read written) :
    substituteNulChars 0 read = written := by
  simpa [substituteNulChars_nil] using spelled []

/-- Text without backslashes is written as it is. -/
theorem plain {cs : List Char} (noBackslash : '\\' ∉ cs) : SpelledAs cs cs := by
  induction cs with
  | nil => exact nil
  | cons c cs ih =>
    intro rest
    rw [List.cons_append, substituteNulChars_zero_cons _ (fun same => noBackslash (same ▸ List.mem_cons_self)),
      ih (fun inTail => noBackslash (List.mem_cons_of_mem c inTail))]
    rfl

/-- An escaped backslash is read as a pair and written as one. -/
theorem escaped_backslash : SpelledAs ['\\', '\\'] ['\\', '\\'] := by
  intro rest
  rw [List.cons_append, substituteNulChars_backslash, List.cons_append, List.nil_append,
    substituteNulChars_backslash, substituteNulChars_add_even (by decide : 2 % 2 = 0) 0]
  rfl

/-- A one-letter escape is written as it is. -/
theorem escaped_letter {x : Char} (notBackslash : x ≠ '\\') (notU : x ≠ 'u') :
    SpelledAs ['\\', x] ['\\', x] := by
  intro rest
  rw [List.cons_append, substituteNulChars_backslash, List.cons_append, List.nil_append,
    substituteNulChars_plain _ _ notBackslash (fun tail same => notU (List.cons.inj same).1)]
  rfl

/-- A `\u` escape of a character other than NUL is written as it is. -/
theorem escaped_code {digits : List Char} (four : digits.length = 4)
    (notZero : digits ≠ ['0', '0', '0', '0']) (noBackslash : '\\' ∉ digits) :
    SpelledAs ('\\' :: 'u' :: digits) ('\\' :: 'u' :: digits) := by
  intro rest
  have notEscape : ∀ tail, 'u' :: (digits ++ rest) ≠ 'u' :: '0' :: '0' :: '0' :: '0' :: tail := by
    intro tail same
    apply notZero
    have front := congrArg (List.take 4) (List.cons.inj same).2
    rwa [List.take_left' four] at front
  rw [List.cons_append, substituteNulChars_backslash, List.cons_append,
    substituteNulChars_plain _ _ (by decide) notEscape, plain noBackslash rest]
  rfl

/-- The escape of NUL is written with its backslash escaped. -/
theorem escaped_nul :
    SpelledAs ['\\', 'u', '0', '0', '0', '0'] ['\\', '\\', 'u', '0', '0', '0', '0'] := by
  intro rest
  rw [List.cons_append, substituteNulChars_backslash]
  exact substituteNulChars_escape 1 rest

end SpelledAs

/-! ## Spelling out NULs -/

/-- A character as it stands once NULs are spelled out: a NUL as the six
characters of its JSON escape, any other character as it is. -/
def spellNulChar (c : Char) : List Char :=
  if c = '\x00' then ['\\', 'u', '0', '0', '0', '0'] else [c]

/-- A string with every NUL spelled as the six characters of its JSON escape,
and nothing else changed. -/
def spellNulText (s : String) : String := String.ofList (s.toList.flatMap spellNulChar)

theorem spellNulText_toList (s : String) : (spellNulText s).toList = s.toList.flatMap spellNulChar := by
  simp [spellNulText]

/-- A string spelled out holds no NUL. -/
theorem nul_not_mem_spellNulText (s : String) : '\x00' ∉ (spellNulText s).toList := by
  simp only [spellNulText_toList, List.mem_flatMap, not_exists, not_and]
  intro c _
  unfold spellNulChar
  split
  · decide
  · rename_i notNul
    simpa [eq_comm] using notNul

/-- A string without NUL is its own spelling. -/
theorem spellNulText_of_nul_not_mem {s : String} (noNul : '\x00' ∉ s.toList) : spellNulText s = s := by
  have kept : ∀ c ∈ s.toList, spellNulChar c = [c] := fun c member => by
    unfold spellNulChar
    rw [if_neg fun (same : c = '\x00') => noNul (same ▸ member)]
  apply String.toList_injective
  rw [spellNulText_toList, List.flatMap_congr kept, List.flatMap_singleton']

/-- The characters of a `\u` escape of a control character other than NUL. -/
theorem hexPadded_control {n : Nat} (control : n < 32) (notNul : 0 < n) :
    (Text.hexPadded 4 n).toList.length = 4 ∧ (Text.hexPadded 4 n).toList ≠ ['0', '0', '0', '0'] ∧
      '\\' ∉ (Text.hexPadded 4 n).toList := by
  revert n
  decide

/-- A character other than NUL escaped inside a JSON string is written as it is. -/
theorem spelledAs_jsonEscape_of_ne {c : Char} (notNul : c ≠ '\x00') :
    SpelledAs (jsonEscape c).toList (jsonEscape c).toList := by
  unfold jsonEscape
  split
  · exact SpelledAs.escaped_letter (by decide) (by decide)
  · exact SpelledAs.escaped_backslash
  · exact SpelledAs.escaped_letter (by decide) (by decide)
  · exact SpelledAs.escaped_letter (by decide) (by decide)
  · exact SpelledAs.escaped_letter (by decide) (by decide)
  · exact SpelledAs.escaped_letter (by decide) (by decide)
  · exact SpelledAs.escaped_letter (by decide) (by decide)
  · rename_i notBackslash _ _ _ _ _
    split
    · rename_i control
      have positive : 0 < c.toNat := by
        rcases Nat.eq_zero_or_pos c.toNat with zero | positive
        · exact absurd (Char.toNat_inj.1 zero) notNul
        · exact positive
      obtain ⟨four, notZero, noBackslash⟩ := hexPadded_control control positive
      simpa using SpelledAs.escaped_code four notZero noBackslash
    · exact SpelledAs.plain (by simpa using fun same => notBackslash same.symm)

/-- Inside a JSON string, the escapes of a string's characters are written as the
escapes of the characters of its spelling. -/
theorem spelledAs_jsonEscapes (cs : List Char) :
    SpelledAs (cs.flatMap fun c => (jsonEscape c).toList)
      ((cs.flatMap spellNulChar).flatMap fun c => (jsonEscape c).toList) := by
  induction cs with
  | nil => exact SpelledAs.nil
  | cons c cs ih =>
    rw [List.flatMap_cons, List.flatMap_cons, List.flatMap_append]
    refine SpelledAs.append ?_ ih
    by_cases nul : c = '\x00'
    · subst nul
      exact SpelledAs.escaped_nul
    · simpa [spellNulChar, nul] using spelledAs_jsonEscape_of_ne nul

theorem jsonQuote_toList (s : String) :
    (jsonQuote s).toList = '"' :: (s.toList.flatMap fun c => (jsonEscape c).toList) ++ ['"'] := by
  simp [jsonQuote, List.flatMap_map]

/-- A JSON string is written as the JSON string of its spelling. -/
theorem spelledAs_jsonQuote (s : String) :
    SpelledAs (jsonQuote s).toList (jsonQuote (spellNulText s)).toList := by
  have quote : SpelledAs ['"'] ['"'] := SpelledAs.plain (by decide)
  rw [jsonQuote_toList, jsonQuote_toList, spellNulText_toList]
  exact quote.append ((spelledAs_jsonEscapes s.toList).append quote)

/-! ## Text without backslashes -/

theorem backslash_not_mem_toDigits (n : Nat) : '\\' ∉ Nat.toDigits 10 n := fun member => by
  simpa using Nat.isDigit_of_mem_toDigits (by decide) (by decide) member

theorem backslash_not_mem_intText (n : Int) : '\\' ∉ (toString n).toList := by
  cases n with
  | ofNat m => simpa [Int.repr, Nat.repr] using backslash_not_mem_toDigits m
  | negSucc m => simpa [Int.repr, Nat.repr] using backslash_not_mem_toDigits (m + 1)

theorem backslash_not_mem_placeDigits {ds : List Char} (noBackslash : '\\' ∉ ds)
    (style : Number.FloatStyle) (point : Int) : '\\' ∉ (Number.placeDigits style ds point).toList := by
  unfold Number.placeDigits
  dsimp only
  split
  · -- written positionally: the digits, zeros and one point
    split
    · simpa using noBackslash
    · split
      · simpa using noBackslash
      · simp only [String.toList_ofList, List.mem_append, List.mem_cons, not_or]
        exact ⟨fun m => noBackslash (List.mem_of_mem_take m), by decide,
          fun m => noBackslash (List.mem_of_mem_drop m)⟩
  · -- written in scientific notation: a mantissa, `e`, a sign and the exponent's digits
    simp only [String.toList_append, List.mem_append, not_or]
    refine ⟨⟨⟨?_, by decide⟩, by split <;> decide⟩,
      by simpa [Number.decimalDigits] using backslash_not_mem_toDigits _⟩
    split <;> simp_all

theorem backslash_not_mem_formatFloat (x : Float) :
    '\\' ∉ (Number.formatFloat .json x).toList := by
  unfold Number.formatFloat
  split
  · decide
  · split <;> decide
  · split <;> decide
  · simp only [String.toList_append, List.mem_append, not_or]
    exact ⟨by split <;> decide, backslash_not_mem_placeDigits (backslash_not_mem_toDigits _) _ _⟩

/-- Text between two backslash-free texts keeps its spelling. -/
theorem spelledAs_between {opening closing : String} (noOpening : '\\' ∉ opening.toList)
    (noClosing : '\\' ∉ closing.toList) {read written : String}
    (spelled : SpelledAs read.toList written.toList) :
    SpelledAs (opening ++ read ++ closing).toList (opening ++ written ++ closing).toList := by
  simp only [String.toList_append]
  exact ((SpelledAs.plain noOpening).append spelled).append (SpelledAs.plain noClosing)

/-! ## Computations that fail alike -/

/-- Two computations that stop with the same fault, or give values related by `related`. -/
def Agree {α β : Type} (related : α → β → Prop) : Except Fault α → Except Fault β → Prop
  | .ok a, .ok b => related a b
  | .error f, .error g => f = g
  | _, _ => False

namespace Agree

variable {α β γ δ : Type} {related : α → β → Prop}

theorem ok {a : α} {b : β} (holds : related a b) : Agree related (.ok a) (.ok b) := holds

theorem error (f : Fault) : Agree related (.error f) (.error f) := rfl

/-- A computation that stops before its second half agrees with itself, whatever the halves. -/
theorem error_bind {related' : γ → δ → Prop} (e : Fault) (f : α → Except Fault γ) (g : β → Except Fault δ) :
    Agree related' ((Except.error e : Except Fault α) >>= f) ((Except.error e : Except Fault β) >>= g) :=
  rfl

theorem bind {related' : γ → δ → Prop} {x : Except Fault α} {y : Except Fault β}
    {f : α → Except Fault γ} {g : β → Except Fault δ} (first : Agree related x y)
    (next : ∀ a b, related a b → Agree related' (f a) (g b)) : Agree related' (x >>= f) (y >>= g) := by
  cases x with
  | error e =>
    cases y with
    | error e' =>
      cases (first : e = e')
      exact error e
    | ok b => exact first.elim
  | ok a =>
    cases y with
    | error e' => exact first.elim
    | ok b => exact next a b first

/-- Where each related value is a function of the other, the second computation
is the first mapped by that function. -/
theorem eq_map {x : Except Fault α} {y : Except Fault β} {fn : α → β} (agree : Agree related x y)
    (determined : ∀ a b, related a b → b = fn a) : y = fn <$> x := by
  cases x with
  | error e =>
    cases y with
    | error e' =>
      cases (agree : e = e')
      rfl
    | ok b => exact agree.elim
  | ok a =>
    cases y with
    | error e' => exact agree.elim
    | ok b => exact congrArg Except.ok (determined a b agree)

end Agree

/-! ## Spelling out the NULs of a value -/

/-- A dictionary key with the NULs of its JSON text spelled out; a key JSON
cannot hold stays as it is. -/
def Value.spellNulKey (k : Value) : Value :=
  match jsonKey? k with
  | some t => .str (spellNulText t)
  | Option.none => k

mutual

/-- A value with every NUL of its strings, keys and text forms spelled as the six
characters of its JSON escape. A value that JSON writes as its text form is
spelled as the string of that form. -/
def Value.spellNul : Value → Value
  | .none => .none
  | .bool b => .bool b
  | .int n => .int n
  | .float x => .float x
  | .str s => .str (spellNulText s)
  | .tuple items => .tuple (Value.spellNulList items)
  | .list items => .list (Value.spellNulList items)
  | .dict entries => .dict (Value.spellNulEntries entries)
  | v => .str (spellNulText v.text)

/-- Items with their NULs spelled out. -/
def Value.spellNulList : List Value → List Value
  | [] => []
  | v :: rest => v.spellNul :: Value.spellNulList rest

/-- Dictionary entries with the NULs of their keys and values spelled out. -/
def Value.spellNulEntries : List (Value × Value) → List (Value × Value)
  | [] => []
  | (k, v) :: rest => (k.spellNulKey, v.spellNul) :: Value.spellNulEntries rest

end

/-- The relation of a JSON text to the text of the same value spelled out. -/
abbrev SpelledText (read written : String) : Prop := SpelledAs read.toList written.toList

mutual

/-- The JSON text of a value's spelling is what the substitution makes of the
value's JSON text, in front of any text; both fail alike. -/
theorem spelledAs_jsonText : ∀ w : Value, Agree SpelledText w.jsonText w.spellNul.jsonText
  | .none => by
    simp only [Value.spellNul, Value.jsonText]
    exact Agree.ok (SpelledAs.plain (by decide))
  | .bool b => by
    simp only [Value.spellNul, Value.jsonText]
    cases b <;> exact Agree.ok (SpelledAs.plain (by decide))
  | .int n => by
    simp only [Value.spellNul, Value.jsonText]
    exact Agree.ok (SpelledAs.plain (backslash_not_mem_intText n))
  | .float x => by
    simp only [Value.spellNul, Value.jsonText]
    exact Agree.ok (SpelledAs.plain (backslash_not_mem_formatFloat x))
  | .str s => by
    simp only [Value.spellNul, Value.jsonText]
    exact Agree.ok (spelledAs_jsonQuote s)
  | .tuple items => by
    simp only [Value.spellNul, Value.jsonText]
    exact Agree.bind (spelledAs_jsonItems items) fun _ _ spelled =>
      Agree.ok (spelledAs_between (by decide) (by decide) spelled)
  | .list items => by
    simp only [Value.spellNul, Value.jsonText]
    exact Agree.bind (spelledAs_jsonItems items) fun _ _ spelled =>
      Agree.ok (spelledAs_between (by decide) (by decide) spelled)
  | .dict entries => by
    simp only [Value.spellNul, Value.jsonText]
    exact Agree.bind (spelledAs_jsonMembers entries) fun _ _ spelled =>
      Agree.ok (spelledAs_between (by decide) (by decide) spelled)
  -- every other value is written as the JSON string of its text form
  | .bytes _ | .decimal _ | .datetime _ | .date _ | .time _ | .set _ | .member .. | .object ..
  | .type _ | .fragment _ | .query _ | .database => by
    simp only [Value.spellNul, Value.jsonText]
    exact Agree.ok (spelledAs_jsonQuote _)

/-- Items written with commas between them keep their spelling item by item. -/
theorem spelledAs_jsonItems : ∀ items : List Value,
    Agree SpelledText (Value.jsonItems items) (Value.jsonItems (Value.spellNulList items))
  | [] => by
    simp only [Value.spellNulList, Value.jsonItems]
    exact Agree.ok SpelledAs.nil
  | [v] => by
    simp only [Value.spellNulList, Value.jsonItems]
    exact spelledAs_jsonText v
  | v :: w :: rest => by
    simp only [Value.spellNulList, Value.jsonItems]
    refine Agree.bind (spelledAs_jsonText v) fun _ _ first =>
      Agree.bind (spelledAs_jsonItems (w :: rest)) fun _ _ later => Agree.ok ?_
    simp only [SpelledText, String.toList_append]
    exact (first.append (SpelledAs.plain (by decide))).append later

/-- Object members keep their spelling member by member: a key JSON cannot hold
fails alike, any other key is written as the JSON string of its spelled text. -/
theorem spelledAs_jsonMembers : ∀ entries : List (Value × Value),
    Agree SpelledText (Value.jsonMembers entries) (Value.jsonMembers (Value.spellNulEntries entries))
  | [] => by
    simp only [Value.spellNulEntries, Value.jsonMembers]
    exact Agree.ok SpelledAs.nil
  | (k, v) :: rest => by
    cases key : jsonKey? k with
    | none =>
      have kept : k.spellNulKey = k := by
        unfold Value.spellNulKey
        rw [key]
      simp only [Value.jsonMembers, Value.spellNulEntries, kept, key]
      exact Agree.error_bind _ _ _
    | some t =>
      have spelledKey : jsonKey? k.spellNulKey = some (spellNulText t) := by
        unfold Value.spellNulKey
        rw [key]
        rfl
      simp only [Value.jsonMembers, Value.spellNulEntries, spelledKey, key]
      have keyQuoted : Agree (fun key key' => SpelledText (jsonQuote key) (jsonQuote key'))
          (pure t) (pure (spellNulText t)) := Agree.ok (spelledAs_jsonQuote t)
      refine Agree.bind keyQuoted fun _ _ quoted =>
        Agree.bind (spelledAs_jsonText v) fun _ _ value => ?_
      have member := (quoted.append (SpelledAs.plain (by decide : '\\' ∉ ": ".toList))).append value
      cases rest with
      | nil =>
        simp only [Value.spellNulEntries]
        exact Agree.ok (by simpa [SpelledText] using member)
      | cons entry later =>
        simp only [Value.spellNulEntries]
        refine Agree.bind (spelledAs_jsonMembers (entry :: later)) fun _ _ others => Agree.ok ?_
        simp only [SpelledText, String.toList_append] at member ⊢
        simpa [List.append_assoc] using
          (member.append (SpelledAs.plain (by decide : '\\' ∉ ", ".toList))).append others

end

/-- The JSON text of a value spelled out is what the substitution makes of the
value's JSON text, and it fails as that text does. -/
theorem jsonText_spellNul (w : Value) : w.spellNul.jsonText = substituteNul <$> w.jsonText :=
  (spelledAs_jsonText w).eq_map fun read written spelled => by
    apply String.toList_injective
    rw [substituteNul, String.toList_ofList, spelled.eq]

/-- No text the substitution writes holds an escape of NUL. -/
theorem escapesNul_substituteNul (text : String) : escapesNul (substituteNul text).toList = false := by
  rw [substituteNul, String.toList_ofList]
  exact escapesNul_substituteNulChars 0 text.toList

namespace Dialect

theorem encodeJson_eq_map (d : Dialect) (v : Value) :
    d.encodeJson v = (fun text => if d.substitutesJsonNul then substituteNul text else text) <$> v.dumps := by
  rw [encodeJson, bind_pure_comp]

theorem substitutesJsonNul_of_not_mysql {d : Dialect} (engine : d = .sqlite ∨ d = .postgres) :
    d.substitutesJsonNul = true := by
  rcases engine with rfl | rfl <;> rfl

end Dialect

/-- On SQLite and PostgreSQL the JSON text stored for a value is the text that
`json.dumps` writes for the value, a model first dumped to its fields, with
every NUL of every string, object key and text form spelled as the six
characters `\u0000` and nothing else changed; it fails exactly as dumping does,
and it holds no escape of NUL. MySQL stores the dumped text as it is. -/
theorem stored_json_spells_out_nul (v : Value) :
    (∀ d : Dialect, d = .sqlite ∨ d = .postgres →
      d.encodeJson v = (v.modelDumped >>= fun w => w.spellNul.jsonText) ∧
      ∀ text, d.encodeJson v = .ok text → escapesNul text.toList = false) ∧
    ∀ version, (Dialect.mysql version).encodeJson v = v.dumps := by
  constructor
  · intro d engine
    have substituted : d.encodeJson v = substituteNul <$> v.dumps := by
      simp only [Dialect.encodeJson_eq_map, Dialect.substitutesJsonNul_of_not_mysql engine, if_true]
    refine ⟨?_, fun text stored => ?_⟩
    · rw [substituted, Value.dumps]
      cases v.modelDumped with
      | error f => rfl
      | ok w => exact (jsonText_spellNul w).symm
    · rw [substituted] at stored
      cases dumped : v.dumps with
      | error f =>
        rw [dumped] at stored
        cases stored
      | ok t =>
        rw [dumped] at stored
        cases stored
        exact escapesNul_substituteNul t
  · intro version
    simp [Dialect.encodeJson_eq_map, Dialect.substitutesJsonNul]

/-- Text that only looks like an escape of NUL, its backslash escaped, is stored as it is. -/
example : Dialect.postgres.encodeJson (.list [.str "\\u0000"]) = .ok "[\"\\\\u0000\"]" := by decide

/-- A NUL inside a string is stored on SQLite as the text of its escape, and the
stored text holds no escape of NUL. -/
theorem nul_in_string_stored_as_escape_text :
    Dialect.sqlite.encodeJson (.str "a\x00b") = .ok "\"a\\\\u0000b\"" ∧
      escapesNul "\"a\\\\u0000b\"".toList = false :=
  have stored : Dialect.sqlite.encodeJson (.str "a\x00b") = .ok "\"a\\\\u0000b\"" := by decide
  ⟨stored, ((stored_json_spells_out_nul _).1 .sqlite (.inl rfl)).2 _ stored⟩

end SqlMapper
