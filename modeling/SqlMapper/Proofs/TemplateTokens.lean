import Mathlib
import SqlMapper.Query.Render

/-!
# Reading templates

A template is read left to right. An escaped question mark `\?` is the text `?`; a `?`
that no backslash precedes opens a named slot when one of the slot names follows it and no
letter, digit or underscore follows the name, and is a positional slot otherwise; every
other character is text, gathered into runs between the slots.

Each token stands for a stretch of the template, its source: a run of text for itself, the
text `?` for the escape `\?`, a named slot for `?` and its name, a positional slot for `?`.
Main statements: the sources of the tokens spell the template, so reading loses and adds
nothing; at every escaped question mark the reading has the text `?`; a named slot is read
exactly at the unescaped `?` followed by its name and no further name character; and a
template built with as many arguments as positional slots writes each argument once, in
order, at its slot, never running out of arguments.
-/

set_option autoImplicit false

namespace SqlMapper.Text

/-- The stretch of a template a token is read from. -/
def Token.source : Token → List Char
  | .text s => if s = "?" then ['\\', '?'] else s.toList
  | .named slot => '?' :: slot.name.toList
  | .positional => ['?']

/-! ## Slot names -/

/-- A named slot opens the text after a `?` when the text starts with the slot's name and no
letter, digit or underscore follows the name. -/
def Slot.Opens (slot : Slot) (cs : List Char) : Prop :=
  ∃ rest, cs = slot.name.toList ++ rest ∧ ∀ c ∈ rest.head?, isNameChar c = false

theorem Slot.isNameChar_of_mem_name (slot : Slot) : ∀ c ∈ slot.name.toList, isNameChar c = true := by
  have named : slot.name.toList.all isNameChar = true := by cases slot <;> decide
  simpa using named

/-- No slot name begins another. -/
theorem Slot.eq_of_name_prefix {a b : Slot} (pre : a.name.toList <+: b.name.toList) : a = b := by
  cases a <;> cases b <;> first | rfl | (exfalso; revert pre; decide)

/-- The test `namedSlotAt` makes of one slot is whether it opens the text. -/
theorem Slot.test_eq_true_iff (slot : Slot) (cs : List Char) :
    (slot.name.toList.isPrefixOf cs &&
        !((cs.drop slot.name.toList.length).head?.map isNameChar).getD false) = true ↔ slot.Opens cs := by
  constructor
  · intro test
    simp only [Bool.and_eq_true, Bool.not_eq_true'] at test
    obtain ⟨rest, spelled⟩ := List.isPrefixOf_iff_prefix.1 test.1
    refine ⟨rest, spelled.symm, fun c first => ?_⟩
    have after := test.2
    rw [← spelled, List.drop_left] at after
    cases rest with
    | nil => simp at first
    | cons d tail =>
      simp only [List.head?_cons, Option.mem_def, Option.some.injEq] at first
      simpa [first] using after
  · rintro ⟨rest, rfl, after⟩
    simp only [Bool.and_eq_true, Bool.not_eq_true']
    refine ⟨List.isPrefixOf_iff_prefix.2 (List.prefix_append _ _), ?_⟩
    rw [List.drop_left]
    cases rest with
    | nil => rfl
    | cons c tail => simpa using after c rfl

/-- At most one slot opens a text. -/
theorem Slot.Opens.unique {a b : Slot} {cs : List Char} (ha : a.Opens cs) (hb : b.Opens cs) : a = b := by
  obtain ⟨ra, rfl, afterA⟩ := ha
  obtain ⟨rb, same, afterB⟩ := hb
  rcases List.append_eq_append_iff.1 same with ⟨mid, longer, restA⟩ | ⟨mid, longer, restB⟩
  · -- `b`'s name runs on into `a`'s rest, whose first character is then a name character
    cases mid with
    | nil => exact Slot.eq_of_name_prefix ⟨[], by simpa using longer.symm⟩
    | cons c tail =>
      have named := b.isNameChar_of_mem_name c (by simp [longer])
      have stop := afterA c (by simp [restA])
      simp [stop] at named
  · cases mid with
    | nil => exact Slot.eq_of_name_prefix ⟨[], by simpa using longer⟩
    | cons c tail =>
      have named := a.isNameChar_of_mem_name c (by simp [longer])
      have stop := afterB c (by simp [restB])
      simp [stop] at named

/-- A slot read after a `?` opens the text there, and the length read is its name's. -/
theorem opens_of_namedSlotAt {cs : List Char} {slot : Slot} {n : Nat} (found : namedSlotAt cs = some (slot, n)) :
    slot.Opens cs ∧ n = slot.name.length := by
  obtain ⟨s, -, picked⟩ := List.exists_of_findSome?_eq_some found
  simp only at picked
  split at picked
  · next test =>
    cases picked
    exact ⟨(Slot.test_eq_true_iff slot cs).1 test, String.length_toList⟩
  · cases picked

/-- The named slot read after a `?` is the one that opens the text there, with the length of
its name. -/
theorem namedSlotAt_eq_some_iff {cs : List Char} {slot : Slot} {n : Nat} :
    namedSlotAt cs = some (slot, n) ↔ slot.Opens cs ∧ n = slot.name.length := by
  refine ⟨opens_of_namedSlotAt, ?_⟩
  rintro ⟨opens, rfl⟩
  cases found : namedSlotAt cs with
  | none =>
    have missed := List.findSome?_eq_none_iff.1 found slot (by cases slot <;> decide)
    simp only at missed
    rw [if_pos ((Slot.test_eq_true_iff slot cs).2 opens)] at missed
    cases missed
  | some picked =>
    obtain ⟨other, n⟩ := picked
    obtain ⟨opensOther, rfl⟩ := opens_of_namedSlotAt found
    rw [opensOther.unique opens]

/-- A `?` is a positional slot exactly when no slot opens the text after it. -/
theorem namedSlotAt_eq_none_iff {cs : List Char} : namedSlotAt cs = none ↔ ∀ slot : Slot, ¬ slot.Opens cs := by
  constructor
  · intro none slot opens
    have := namedSlotAt_eq_some_iff.2 ⟨opens, rfl⟩
    rw [none] at this
    cases this
  · intro closed
    cases found : namedSlotAt cs with
    | none => rfl
    | some picked => exact absurd (namedSlotAt_eq_some_iff.1 found).1 (closed picked.1)

/-- A slot name ends before a character that no name holds. -/
theorem Slot.Opens.length_le {slot : Slot} {x y : List Char} {c : Char} (opens : slot.Opens (x ++ c :: y))
    (stop : isNameChar c = false) : slot.name.length ≤ x.length := by
  obtain ⟨rest, spelled, -⟩ := opens
  rcases List.append_eq_append_iff.1 spelled with ⟨mid, longer, tail⟩ | ⟨mid, shorter, -⟩
  · cases mid with
    | nil =>
      have := congrArg List.length longer
      simp only [List.append_nil, String.length_toList] at this
      omega
    | cons d ds =>
      have first : c = d := (List.cons.inj (by simpa using tail)).1
      have named := slot.isNameChar_of_mem_name c (by simp [longer, first])
      simp [stop] at named
  · have := congrArg List.length shorter
    simp only [List.length_append, String.length_toList] at this
    omega

/-! ## Reading -/

/-- Text read so far is written as one token in front of the tokens after it. -/
theorem flushText_eq_append (pending : List Char) (rest : List Token) :
    flushText pending rest = flushText pending [] ++ rest := by
  unfold flushText
  split <;> simp

/-- Text gathered without a question mark is its own source. -/
theorem source_flushText {pending : List Char} (plain : '?' ∉ pending) :
    (flushText pending []).flatMap Token.source = pending.reverse := by
  unfold flushText
  split
  · next empty => simp_all
  · -- the text is not the escaped `?`, for it holds no `?` at all
    have notEscape : String.ofList pending.reverse ≠ "?" := by
      intro same
      have spelled := congrArg String.toList same
      rw [String.toList_ofList] at spelled
      exact plain (List.mem_reverse.1 (by simp [spelled]))
    simp [Token.source, notEscape]

/-- The tokens read from a template spell it, after the text gathered before it. -/
theorem source_tokensOf (pending cs : List Char) (plain : '?' ∉ pending) :
    (tokensOf pending cs).flatMap Token.source = pending.reverse ++ cs := by
  induction pending, cs using tokensOf.induct with
  | case1 pending => simp [tokensOf.eq_1, source_flushText plain]
  | case2 pending rest ih =>
    rw [tokensOf.eq_2, flushText_eq_append]
    simp [source_flushText plain, ih List.not_mem_nil, Token.source]
  | case3 pending rest slot n found ih =>
    obtain ⟨⟨after, rfl, -⟩, rfl⟩ := namedSlotAt_eq_some_iff.1 found
    rw [tokensOf.eq_3]
    split
    · next slot' n' found' =>
      -- the slot read is the one found, and its name is read whole
      rw [found] at found'
      cases found'
      have rest := ih List.not_mem_nil
      rw [← String.length_toList, List.drop_left] at rest
      rw [flushText_eq_append, ← String.length_toList, List.drop_left]
      simp [source_flushText plain, rest, Token.source]
    · next missing => simp [missing] at found
  | case4 pending rest missing ih =>
    rw [tokensOf.eq_3]
    split
    · next slot n found => simp [missing] at found
    · rw [flushText_eq_append]
      simp [source_flushText plain, ih List.not_mem_nil, Token.source]
  | case5 pending c rest notEscape notQuestion ih =>
    rw [tokensOf.eq_4 _ _ _ notEscape notQuestion,
      ih (by simpa [Ne.symm (fun h => notQuestion h)] using plain)]
    simp

/-- Text tokens hold no question mark, the text `?` of an escape apart. -/
theorem text_of_mem_tokensOf (pending cs : List Char) (plain : '?' ∉ pending) :
    ∀ s, Token.text s ∈ tokensOf pending cs → s = "?" ∨ '?' ∉ s.toList := by
  -- the gathered text is the only text written, beside the escapes' `?`
  have gathered : ∀ (pending : List Char) (rest : List Token), '?' ∉ pending →
      ∀ s, Token.text s ∈ flushText pending rest → (s = "?" ∨ '?' ∉ s.toList) ∨ Token.text s ∈ rest := by
    intro pending rest plain s mem
    unfold flushText at mem
    split at mem
    · exact .inr mem
    · rcases List.mem_cons.1 mem with same | later
      · cases same
        exact .inl (.inr (by simpa using plain))
      · exact .inr later
  induction pending, cs using tokensOf.induct with
  | case1 pending =>
    intro s mem
    simpa using gathered pending [] plain s (by rwa [tokensOf.eq_1] at mem)
  | case2 pending rest ih =>
    intro s mem
    rw [tokensOf.eq_2] at mem
    rcases gathered pending _ plain s mem with done | mem
    · exact done
    · rcases List.mem_cons.1 mem with same | later
      · cases same
        exact .inl rfl
      · exact ih List.not_mem_nil s later
  | case3 pending rest slot n found ih =>
    intro s mem
    rw [tokensOf.eq_3] at mem
    split at mem
    · next slot' n' found' =>
      rw [found] at found'
      cases found'
      rcases gathered pending _ plain s mem with done | mem
      · exact done
      · exact ih List.not_mem_nil s (List.mem_of_ne_of_mem (by simp) mem)
    · next missing => simp [missing] at found
  | case4 pending rest missing ih =>
    intro s mem
    rw [tokensOf.eq_3] at mem
    split at mem
    · next slot n found => simp [missing] at found
    · rcases gathered pending _ plain s mem with done | mem
      · exact done
      · exact ih List.not_mem_nil s (List.mem_of_ne_of_mem (by simp) mem)
  | case5 pending c rest notEscape notQuestion ih =>
    rw [tokensOf.eq_4 _ _ _ notEscape notQuestion]
    exact ih (by simpa [Ne.symm (fun h => notQuestion h)] using plain)

/-! ## Where tokens start -/

/-- The text after `before` starts a token of its own: it is an escaped question mark, or a
question mark that no backslash precedes. -/
inductive StartsToken (before : List Char) : List Char → Prop
  | escape (rest : List Char) : StartsToken before ('\\' :: '?' :: rest)
  | question (rest : List Char) (unescaped : before.getLast? ≠ some '\\') : StartsToken before ('?' :: rest)

/-- A text ends with the character its last part ends with. -/
theorem getLast?_append_of_eq_some (before : List Char) {after : List Char} {c : Char} (last : after.getLast? = some c) :
    (before ++ after).getLast? = some c := by
  simp [List.getLast?_append, last]

/-- Whether text starts a token depends on the text before it only through its last character. -/
theorem StartsToken.of_getLast? {before before' s : List Char} (starts : StartsToken before s)
    (last : before'.getLast? = some '\\' → before.getLast? = some '\\') : StartsToken before' s := by
  cases starts with
  | escape rest => exact .escape rest
  | question rest unescaped => exact .question rest (fun ends => unescaped (last ends))

/-- A token starts with a backslash or a question mark, neither of which a slot name holds. -/
theorem StartsToken.head_not_nameChar {before s : List Char} (starts : StartsToken before s) :
    ∃ c rest, s = c :: rest ∧ isNameChar c = false := by
  cases starts with
  | escape rest => exact ⟨_, _, rfl, by decide⟩
  | question rest _ => exact ⟨_, _, rfl, by decide⟩

/-- Text that starts a token is read the same whatever text was gathered before it. -/
theorem tokensOf_of_startsToken {before s : List Char} (starts : StartsToken before s) (pending : List Char) :
    tokensOf pending s = flushText pending (tokensOf [] s) := by
  cases starts with
  | escape rest => simp [tokensOf.eq_2, flushText]
  | question rest _ =>
    rw [tokensOf.eq_3, tokensOf.eq_3]
    split <;> simp [flushText]

/-- Before text that starts a token, the tokens read are the gathered text alone. -/
theorem tokensOf_split_here {before s : List Char} (starts : StartsToken before s) {pending : List Char}
    (plain : '?' ∉ pending) :
    ∃ ts, tokensOf pending s = ts ++ tokensOf [] s ∧ ts.flatMap Token.source = pending.reverse :=
  ⟨flushText pending [], by rw [tokensOf_of_startsToken starts, flushText_eq_append], source_flushText plain⟩

/-- Reading splits where a token starts: the tokens read from `a ++ s`, where `s` starts a
token, are tokens that spell `a` followed by the tokens of `s` read on their own. -/
theorem tokensOf_append_of_startsToken (pending cs : List Char) :
    ∀ a s, cs = a ++ s → '?' ∉ pending → StartsToken (pending.reverse ++ a) s →
      ∃ ts, tokensOf pending cs = ts ++ tokensOf [] s ∧ ts.flatMap Token.source = pending.reverse ++ a := by
  induction pending, cs using tokensOf.induct with
  | case1 pending =>
    intro a s split plain starts
    obtain ⟨-, rfl⟩ := List.append_eq_nil_iff.1 split.symm
    cases starts
  | case2 pending rest ih =>
    intro a s split plain starts
    rcases a with _ | ⟨c, a⟩
    · rw [List.nil_append] at split
      subst split
      simpa using tokensOf_split_here starts plain
    simp only [List.cons_append, List.cons.injEq] at split
    obtain ⟨rfl, split⟩ := split
    rcases a with _ | ⟨d, a⟩
    · -- a backslash just before a question mark would have escaped it
      rw [List.nil_append] at split
      subst split
      cases starts with
      | question _ unescaped => simp at unescaped
    simp only [List.cons_append, List.cons.injEq] at split
    obtain ⟨rfl, rfl⟩ := split
    obtain ⟨ts, read, spelled⟩ := ih a s rfl List.not_mem_nil (starts.of_getLast? fun last => by
      simpa using getLast?_append_of_eq_some (pending.reverse ++ ['\\', '?']) (by simpa using last))
    refine ⟨flushText pending [] ++ .text "?" :: ts, ?_, ?_⟩
    · rw [tokensOf.eq_2, flushText_eq_append, read]
      simp
    · simp [source_flushText plain, spelled, Token.source]
  | case3 pending rest slot n found ih =>
    intro a s split plain starts
    rcases a with _ | ⟨c, a⟩
    · rw [List.nil_append] at split
      subst split
      simpa using tokensOf_split_here starts plain
    simp only [List.cons_append, List.cons.injEq] at split
    obtain ⟨rfl, rfl⟩ := split
    obtain ⟨opens, rfl⟩ := namedSlotAt_eq_some_iff.1 found
    -- the slot's name ends before the token that `s` starts
    obtain ⟨c, tail, rfl, stop⟩ := starts.head_not_nameChar
    have inside := opens.length_le stop
    obtain ⟨after, spelledRest, -⟩ := opens
    have name : a.take slot.name.length = slot.name.toList := by
      have := congrArg (List.take slot.name.length) spelledRest
      rwa [List.take_append_of_le_length inside, ← String.length_toList, List.take_left] at this
    obtain ⟨ts, read, spelled⟩ := ih (a.drop slot.name.length) (c :: tail)
      (List.drop_append_of_le_length inside) List.not_mem_nil (starts.of_getLast? fun last => by
        have whole := List.take_append_drop slot.name.length a
        have := getLast?_append_of_eq_some (pending.reverse ++ '?' :: a.take slot.name.length)
          (by simpa using last)
        rwa [List.append_assoc, List.cons_append, whole] at this)
    refine ⟨flushText pending [] ++ .named slot :: ts, ?_, ?_⟩
    · rw [tokensOf.eq_3]
      split
      · next slot' n' found' =>
        rw [found] at found'
        cases found'
        rw [flushText_eq_append, read]
        simp
      · next missing => simp [missing] at found
    · have whole := List.take_append_drop slot.name.length a
      simp [source_flushText plain, spelled, Token.source, ← name, whole]
  | case4 pending rest missing ih =>
    intro a s split plain starts
    rcases a with _ | ⟨c, a⟩
    · rw [List.nil_append] at split
      subst split
      simpa using tokensOf_split_here starts plain
    simp only [List.cons_append, List.cons.injEq] at split
    obtain ⟨rfl, rfl⟩ := split
    obtain ⟨ts, read, spelled⟩ := ih a s rfl List.not_mem_nil (starts.of_getLast? fun last => by
      simpa using getLast?_append_of_eq_some (pending.reverse ++ ['?']) (by simpa using last))
    refine ⟨flushText pending [] ++ .positional :: ts, ?_, ?_⟩
    · rw [tokensOf.eq_3]
      split
      · next slot n found => simp [missing] at found
      · rw [flushText_eq_append, read]
        simp
    · simp [source_flushText plain, spelled, Token.source]
  | case5 pending c rest notEscape notQuestion ih =>
    intro a s split plain starts
    rcases a with _ | ⟨d, a⟩
    · -- text that starts a token is no plain character
      rw [List.nil_append] at split
      subst split
      cases starts with
      | escape rest => exact absurd rfl (notEscape _ rfl)
      | question rest _ => exact absurd rfl notQuestion
    simp only [List.cons_append, List.cons.injEq] at split
    obtain ⟨rfl, rfl⟩ := split
    rw [tokensOf.eq_4 _ _ _ notEscape notQuestion]
    simpa using ih a s rfl (by simpa [Ne.symm (fun h => notQuestion h)] using plain) (by simpa using starts)

/-- Two tokens of one list either are the same token, or their sources do not overlap. -/
theorem Token.eq_or_apart {ts₁ ts₂ us₁ us₂ : List Token} {x y : Token}
    (same : ts₁ ++ x :: ts₂ = us₁ ++ y :: us₂) :
    (ts₁ = us₁ ∧ x = y ∧ ts₂ = us₂) ∨
      (ts₁.flatMap Token.source).length + x.source.length ≤ (us₁.flatMap Token.source).length ∨
      (us₁.flatMap Token.source).length + y.source.length ≤ (ts₁.flatMap Token.source).length := by
  rcases List.append_eq_append_iff.1 same with ⟨mid, rfl, rest⟩ | ⟨mid, rfl, rest⟩
  · cases mid with
    | nil =>
      obtain ⟨rfl, rfl⟩ := List.cons.inj rest
      exact .inl ⟨by simp, rfl, rfl⟩
    | cons m mid =>
      obtain ⟨rfl, -⟩ := List.cons.inj rest
      right; left
      simp only [List.flatMap_append, List.flatMap_cons, List.length_append]
      omega
  · cases mid with
    | nil =>
      obtain ⟨rfl, rfl⟩ := List.cons.inj rest
      exact .inl ⟨by simp, rfl, rfl⟩
    | cons m mid =>
      obtain ⟨rfl, -⟩ := List.cons.inj rest
      right; right
      simp only [List.flatMap_append, List.flatMap_cons, List.length_append]
      omega

/-- A slot opens its name followed by text exactly when that text starts with no name character. -/
theorem Slot.opens_name_append_iff (slot : Slot) (after : List Char) :
    slot.Opens (slot.name.toList ++ after) ↔ ∀ c ∈ after.head?, isNameChar c = false := by
  constructor
  · rintro ⟨rest, spelled, stop⟩
    rwa [List.append_cancel_left spelled]
  · exact fun stop => ⟨after, rfl, stop⟩

theorem tokensOf_escape (rest : List Char) :
    tokensOf [] ('\\' :: '?' :: rest) = .text "?" :: tokensOf [] rest := by
  simp [tokensOf.eq_2, flushText]

theorem tokensOf_named {slot : Slot} {after : List Char} (stop : ∀ c ∈ after.head?, isNameChar c = false) :
    tokensOf [] ('?' :: (slot.name.toList ++ after)) = .named slot :: tokensOf [] after := by
  have found : namedSlotAt (slot.name.toList ++ after) = some (slot, slot.name.length) :=
    namedSlotAt_eq_some_iff.2 ⟨(slot.opens_name_append_iff after).2 stop, rfl⟩
  rw [tokensOf.eq_3]
  split
  · next slot' n found' =>
    rw [found] at found'
    cases found'
    simp [flushText, ← String.length_toList]
  · next missing => simp [missing] at found

theorem tokensOf_positional {rest : List Char} (closed : ∀ slot : Slot, ¬ slot.Opens rest) :
    tokensOf [] ('?' :: rest) = .positional :: tokensOf [] rest := by
  have missing := namedSlotAt_eq_none_iff.2 closed
  rw [tokensOf.eq_3]
  split
  · next slot n found => simp [missing] at found
  · simp [flushText]

/-! ## Tokens of a template -/

/-- The tokens of a template spell it. -/
theorem tokenize_source (t : String) : (tokenize t).flatMap Token.source = t.toList := by
  simpa [tokenize] using source_tokensOf [] t.toList List.not_mem_nil

/-- The tokens of a template split where a token starts. -/
theorem tokenize_split {t : String} {a s : List Char} (spelled : t.toList = a ++ s) (starts : StartsToken a s) :
    ∃ ts, tokenize t = ts ++ tokensOf [] s ∧ ts.flatMap Token.source = a := by
  simpa [tokenize] using
    tokensOf_append_of_startsToken [] t.toList a s spelled List.not_mem_nil (by simpa using starts)

/-- A question mark after a backslash is read as the text `?`, the escape spanning both. -/
theorem tokenize_escape {t : String} {a b : List Char} (spelled : t.toList = a ++ '\\' :: '?' :: b) :
    ∃ ts₁ ts₂ : List Token, tokenize t = ts₁ ++ .text "?" :: ts₂ ∧
      ts₁.flatMap Token.source = a ∧ ts₂.flatMap Token.source = b := by
  obtain ⟨ts, read, spelledA⟩ := tokenize_split spelled (.escape b)
  exact ⟨ts, tokensOf [] b, by rw [read, tokensOf_escape], spelledA,
    by simpa using source_tokensOf [] b List.not_mem_nil⟩

/-- A question mark that no backslash precedes starts a token of its own. -/
theorem tokenize_question {t : String} {a b : List Char} (spelled : t.toList = a ++ '?' :: b)
    (unescaped : a.getLast? ≠ some '\\') :
    ∃ ts, tokenize t = ts ++ tokensOf [] ('?' :: b) ∧ ts.flatMap Token.source = a :=
  tokenize_split spelled (.question b unescaped)

/-- A question mark that no backslash precedes and no slot name follows is a positional slot. -/
theorem tokenize_positional {t : String} {a b : List Char} (spelled : t.toList = a ++ '?' :: b)
    (unescaped : a.getLast? ≠ some '\\') (closed : ∀ slot : Slot, ¬ slot.Opens b) :
    ∃ ts₁ ts₂ : List Token, tokenize t = ts₁ ++ .positional :: ts₂ ∧
      ts₁.flatMap Token.source = a ∧ ts₂.flatMap Token.source = b := by
  obtain ⟨ts, read, spelledA⟩ := tokenize_question spelled unescaped
  exact ⟨ts, tokensOf [] b, by rw [read, tokensOf_positional closed], spelledA,
    by simpa using source_tokensOf [] b List.not_mem_nil⟩

/-- A named slot is read at a `?` followed by its name exactly when no backslash precedes the
`?` and no name character follows the name. -/
theorem tokenize_named_iff {t : String} {a b : List Char} {slot : Slot}
    (spelled : t.toList = a ++ '?' :: (slot.name.toList ++ b)) :
    (∃ ts₁ ts₂ : List Token, tokenize t = ts₁ ++ .named slot :: ts₂ ∧ ts₁.flatMap Token.source = a) ↔
      a.getLast? ≠ some '\\' ∧ ∀ c ∈ b.head?, isNameChar c = false := by
  constructor
  · rintro ⟨ts₁, ts₂, read, spelledA⟩
    have named : (Token.named slot).source.length = slot.name.length + 1 := by
      simp [Token.source, String.length_toList]
    have unescaped : a.getLast? ≠ some '\\' := by
      -- an escape would span the `?` together with the backslash before it
      intro escaped
      obtain ⟨init, rfl⟩ := List.getLast?_eq_some_iff.1 escaped
      obtain ⟨us₁, us₂, readEscape, spelledU, -⟩ :=
        tokenize_escape (t := t) (a := init) (b := slot.name.toList ++ b) (by simp [spelled])
      rcases Token.eq_or_apart (read.symm.trans readEscape) with ⟨-, differ, -⟩ | apart | apart
      · cases differ
      · simp only [spelledA, spelledU, named, List.length_append, List.length_singleton] at apart
        omega
      · simp [spelledA, spelledU, Token.source] at apart
    refine ⟨unescaped, ?_⟩
    obtain ⟨us, readAt, spelledU⟩ := tokenize_question spelled unescaped
    cases found : namedSlotAt (slot.name.toList ++ b) with
    | none =>
      rw [tokensOf_positional (namedSlotAt_eq_none_iff.1 found)] at readAt
      rcases Token.eq_or_apart (read.symm.trans readAt) with ⟨-, differ, -⟩ | apart | apart
      · cases differ
      · simp only [spelledA, spelledU, named] at apart
        omega
      · simp [spelledA, spelledU, Token.source] at apart
    | some picked =>
      obtain ⟨other, n⟩ := picked
      obtain ⟨opens, rfl⟩ := namedSlotAt_eq_some_iff.1 found
      obtain ⟨after, restSpelled, stop⟩ := opens
      rw [restSpelled, tokensOf_named stop] at readAt
      rcases Token.eq_or_apart (read.symm.trans readAt) with ⟨-, same, -⟩ | apart | apart
      · -- the slot read is the one named, so its name is followed by no name character
        cases same
        exact (slot.opens_name_append_iff b).1 ⟨after, restSpelled, stop⟩
      · simp only [spelledA, spelledU, named] at apart
        omega
      · simp only [spelledA, spelledU, Token.source, List.length_cons] at apart
        omega
  · rintro ⟨unescaped, stop⟩
    obtain ⟨ts, read, spelledA⟩ := tokenize_question spelled unescaped
    exact ⟨ts, tokensOf [] b, by rw [read, tokensOf_named stop], spelledA⟩

/-- An escape, then a `?` before a longer name: the text `?`, a positional slot, the name. -/
example : tokenize "\\??TableNames" = [.text "?", .positional, .text "TableNames"] := by decide +kernel

end SqlMapper.Text

namespace SqlMapper

open SqlMapper.Text

/-! ## Filling the slots of a template -/

/-- What a template writes, in order: its text, its named slots, and its arguments. -/
inductive Filled where
  | text (s : String)
  | slot (slot : Slot)
  | arg (v : Value)

/-- The tokens of a template with each positional slot filled by the next argument; the list
ends at a slot left without one. -/
def fillSlots : List Token → List Value → List Filled
  | [], _ => []
  | .text s :: ts, args => .text s :: fillSlots ts args
  | .named slot :: ts, args => .slot slot :: fillSlots ts args
  | .positional :: ts, a :: args => .arg a :: fillSlots ts args
  | .positional :: _, [] => []

/-- The argument written, if any. -/
def Filled.arg? : Filled → Option Value
  | .text _ => none
  | .slot _ => none
  | .arg v => some v

/-- Writes text, a named slot from the frame's table, or an argument through the painter. -/
def Filled.write (p : Painter) (fr : Frame) : Filled → SqlM Unit
  | .text s => fr.write s
  | .slot named => fr.writeSlot named
  | .arg v => p.value fr v

/-- With an argument for every positional slot, a template's tokens are written as its
filled slots, and no slot runs out of arguments. -/
theorem writeTokens_eq_forM (p : Painter) (fr : Frame) :
    ∀ (ts : List Token) (args : List Value), ts.countP (· == .positional) ≤ args.length →
      writeTokens p fr ts args = (fillSlots ts args).forM (Filled.write p fr)
  | [], _, _ => rfl
  | .text s :: ts, args, enough => by
    rw [writeTokens, writeTokens_eq_forM p fr ts args (by simpa using enough)]
    rfl
  | .named slot :: ts, args, enough => by
    rw [writeTokens, writeTokens_eq_forM p fr ts args (by simpa using enough)]
    rfl
  | .positional :: ts, a :: args, enough => by
    rw [writeTokens, writeTokens_eq_forM p fr ts args (by simpa using enough)]
    rfl
  | .positional :: _, [], enough => by simp at enough

/-- With exactly one argument for every positional slot, the arguments written are all of
them, each once, in order. -/
theorem filterMap_fillSlots :
    ∀ (ts : List Token) (args : List Value), ts.countP (· == .positional) = args.length →
      (fillSlots ts args).filterMap Filled.arg? = args
  | [], [], _ => rfl
  | [], _ :: _, exact => by simp at exact
  | .text s :: ts, args, exact => by
    simpa [fillSlots, Filled.arg?, List.filterMap_cons] using filterMap_fillSlots ts args (by simpa using exact)
  | .named slot :: ts, args, exact => by
    simpa [fillSlots, Filled.arg?, List.filterMap_cons] using filterMap_fillSlots ts args (by simpa using exact)
  | .positional :: ts, a :: args, exact => by
    simpa [fillSlots, Filled.arg?, List.filterMap_cons] using filterMap_fillSlots ts args (by simpa using exact)
  | .positional :: _, [], exact => by simp at exact

/-- A template is built exactly when it has as many positional slots as arguments. -/
theorem mkTemplate_eq_ok_iff {cat : Catalog} {template : Value} {args : List Value} {sep t : String}
    {frag : Fragment} (text : textOf cat template = .ok t) :
    mkTemplate cat template args sep = .ok frag ↔ countPlaceholders t = args.length ∧ frag = .template t args sep := by
  simp only [mkTemplate, text, bind, Except.bind]
  split
  · next differ => simp [differ, throw, throwThe, MonadExceptOf.throw]
  · next same =>
    simp only [ne_eq, not_not] at same
    simp [same, pure, Except.pure, eq_comm]

/-! ## Main statement -/

/-- The tokens of a template spell it, each token for its own source; no text token holds a
question mark but the escape's `?`; an escaped question mark is read as the text `?`; a named
slot is read exactly at a `?` followed by its name where no backslash precedes the `?` and no
name character follows the name; every other `?` is a positional slot; the placeholders
counted are the positional slots; and a template built with its arguments writes its text,
its named slots and each argument once, in order, never running out of arguments. -/
theorem template_tokens_partition_and_fill (t : String) :
    (tokenize t).flatMap Token.source = t.toList ∧
      (∀ s, Token.text s ∈ tokenize t → s = "?" ∨ '?' ∉ s.toList) ∧
      (∀ a b, t.toList = a ++ '\\' :: '?' :: b →
        ∃ ts₁ ts₂, tokenize t = ts₁ ++ .text "?" :: ts₂ ∧
          ts₁.flatMap Token.source = a ∧ ts₂.flatMap Token.source = b) ∧
      (∀ a (slot : Slot) b, t.toList = a ++ '?' :: (slot.name.toList ++ b) →
        ((∃ ts₁ ts₂, tokenize t = ts₁ ++ .named slot :: ts₂ ∧ ts₁.flatMap Token.source = a) ↔
          a.getLast? ≠ some '\\' ∧ ∀ c ∈ b.head?, isNameChar c = false)) ∧
      (∀ a b, t.toList = a ++ '?' :: b → a.getLast? ≠ some '\\' → (∀ slot : Slot, ¬ slot.Opens b) →
        ∃ ts₁ ts₂, tokenize t = ts₁ ++ .positional :: ts₂ ∧
          ts₁.flatMap Token.source = a ∧ ts₂.flatMap Token.source = b) ∧
      countPlaceholders t = (tokenize t).countP (· == .positional) ∧
      (∀ cat template args sep frag, textOf cat template = .ok t → mkTemplate cat template args sep = .ok frag →
        ∀ p fr, writeFragmentWith p fr frag = (fillSlots (tokenize t) args).forM (Filled.write p fr) ∧
          (fillSlots (tokenize t) args).filterMap Filled.arg? = args) := by
  refine ⟨tokenize_source t, text_of_mem_tokensOf [] t.toList List.not_mem_nil,
    fun a b spelled => tokenize_escape spelled, fun a slot b spelled => tokenize_named_iff spelled,
    fun a b spelled unescaped closed => tokenize_positional spelled unescaped closed, rfl, ?_⟩
  intro cat template args sep frag text built p fr
  obtain ⟨counted, rfl⟩ := (mkTemplate_eq_ok_iff text).1 built
  exact ⟨writeTokens_eq_forM p fr (tokenize t) args counted.le, filterMap_fillSlots (tokenize t) args counted⟩

/-- A template with a positional slot, a named slot and another positional slot is built with
two arguments and writes both, in order. -/
theorem alias_template_writes_both_arguments :
    textOf Catalog.empty (.str "id = ? OR ?TableAlias.id = ?") = .ok "id = ? OR ?TableAlias.id = ?" ∧
      mkTemplate Catalog.empty (.str "id = ? OR ?TableAlias.id = ?") [.int 1, .int 2] " OR " =
        .ok (.template "id = ? OR ?TableAlias.id = ?" [.int 1, .int 2] " OR ") ∧
      (fillSlots (tokenize "id = ? OR ?TableAlias.id = ?") [.int 1, .int 2]).filterMap Filled.arg? =
        [.int 1, .int 2] := by
  have text : textOf Catalog.empty (.str "id = ? OR ?TableAlias.id = ?") = .ok "id = ? OR ?TableAlias.id = ?" := by
    cbv
  have built : mkTemplate Catalog.empty (.str "id = ? OR ?TableAlias.id = ?") [.int 1, .int 2] " OR " =
      .ok (.template "id = ? OR ?TableAlias.id = ?" [.int 1, .int 2] " OR ") :=
    (mkTemplate_eq_ok_iff text).2 ⟨by decide +kernel, rfl⟩
  exact ⟨text, built, ((template_tokens_partition_and_fill _).2.2.2.2.2.2 _ _ _ _ _ text built (Painter.upTo 0)
    { catalog := .empty, dialect := .sqlite, clock := default }).2⟩

end SqlMapper
