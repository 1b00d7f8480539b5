import Mathlib
import SqlMapper.Proofs.Numerals

/-!
# Shortest digits round to their double

The reals that round to a finite double `m · 2^q`, ties to even, lie between the halfway points
to its neighbours (`Binary.RoundsTo`). The digits chosen for a double are a point `g · 10^t` of
the coarsest decimal grid that has one in that interval: every grid point the search reports lies
in it, and the search always reports one, since the grids it tries get fine enough for the
narrowest interval a double has. Comparisons are made in natural numbers scaled by `scales`; the
constant `0.30103` that picks the coarsest grid is `log₁₀ 2` rounded up, which bounds how far the
search must go.

Main statement: the text of every finite double reads as one numeral of its sign whose magnitude
rounds to the double, and the text of a zero as a numeral of its sign standing for zero.
-/

set_option autoImplicit false

namespace SqlMapper

open SqlMapper.Number

/-- The reals that round to a finite double `m · 2^q`, ties going to the even one: those strictly
between the halfway points to its neighbours, and the halfway points too when `m` is even. -/
def Number.Binary.RoundsTo (b : Binary) (r : ℚ) : Prop :=
  let unit : ℚ := 2 ^ (b.exponent - 2)
  if b.interval.2.2.2 then b.interval.1 * unit ≤ r ∧ r ≤ b.interval.2.2.1 * unit
  else b.interval.1 * unit < r ∧ r < b.interval.2.2.1 * unit

/-! ## Scaled comparisons -/

/-- An integer power as a quotient of natural powers. -/
theorem zpow_eq_div_toNat (x : ℚ) (nonzero : x ≠ 0) (z : Int) : x ^ z = x ^ z.toNat / x ^ (-z).toNat := by
  rw [← zpow_natCast, ← zpow_natCast, ← zpow_sub₀ nonzero, Int.toNat_sub_toNat_neg]

/-- The two scale factors compare `a · 2^(q-2)` with `g · 10^t`. -/
theorem scales_mul (q t : Int) : ((scales q t).1 : ℚ) * 10 ^ t = (scales q t).2 * 2 ^ (q - 2) := by
  have flip : (2 - q).toNat = (-(q - 2)).toNat := by congr 1; ring
  simp only [scales, Nat.pow_eq, Nat.cast_mul, Nat.cast_pow, Nat.cast_ofNat]
  rw [zpow_eq_div_toNat 10 (by norm_num) t, zpow_eq_div_toNat 2 (by norm_num) (q - 2), flip]
  field_simp

theorem scales_pos (q t : Int) : 0 < (scales q t).2 := by
  simp only [scales, Nat.pow_eq]
  positivity

/-- Scaled by `ns`, a multiple of `2^(q-2)` is that multiple times `gs / 10^t`. -/
theorem scaled_eq (q t : Int) (a : ℚ) :
    a * (scales q t).1 = a * 2 ^ (q - 2) * ((scales q t).2 / 10 ^ t) := by
  have ten : (10 : ℚ) ^ t ≠ 0 := by positivity
  field_simp
  rw [mul_assoc, scales_mul]
  ring

theorem grid_eq (q t : Int) (g : ℚ) : g * (scales q t).2 = g * 10 ^ t * ((scales q t).2 / 10 ^ t) := by
  have ten : (10 : ℚ) ^ t ≠ 0 := by positivity
  field_simp

theorem factor_pos (q t : Int) : (0 : ℚ) < (scales q t).2 / 10 ^ t := by
  have gs : (0 : ℚ) < (scales q t).2 := by exact_mod_cast scales_pos q t
  positivity

section Scaled

variable (q t : Int) (a g : Nat)

/-- Scaled natural numbers compare as `a · 2^(q-2)` and `g · 10^t` do. -/
theorem scaled_le_grid_iff :
    a * (scales q t).1 ≤ g * (scales q t).2 ↔ (a : ℚ) * 2 ^ (q - 2) ≤ g * 10 ^ t := by
  rw [← @Nat.cast_le ℚ]
  push_cast
  rw [scaled_eq, grid_eq]
  exact mul_le_mul_iff_of_pos_right (factor_pos q t)

theorem grid_le_scaled_iff :
    g * (scales q t).2 ≤ a * (scales q t).1 ↔ (g : ℚ) * 10 ^ t ≤ a * 2 ^ (q - 2) := by
  rw [← @Nat.cast_le ℚ]
  push_cast
  rw [scaled_eq, grid_eq]
  exact mul_le_mul_iff_of_pos_right (factor_pos q t)

theorem scaled_lt_grid_iff :
    a * (scales q t).1 < g * (scales q t).2 ↔ (a : ℚ) * 2 ^ (q - 2) < g * 10 ^ t := by
  rw [← not_le, ← not_le, grid_le_scaled_iff]

theorem grid_lt_scaled_iff :
    g * (scales q t).2 < a * (scales q t).1 ↔ (g : ℚ) * 10 ^ t < a * 2 ^ (q - 2) := by
  rw [← not_le, ← not_le, scaled_le_grid_iff]

end Scaled

/-! ## Grid points in the interval -/

section Division

variable {n m d k : Nat}

/-- The ceiling of `n / d` is at most `k` when `n` is at most `k` steps of `d`. -/
theorem ceilDiv_le_iff (pos : 0 < d) : ceilDiv n d ≤ k ↔ n ≤ k * d := by
  unfold ceilDiv
  rw [← Nat.lt_succ_iff, Nat.div_lt_iff_lt_mul pos, Nat.succ_mul]
  omega

/-- The first multiple of `d` past `n`. -/
theorem div_add_one_le_iff (pos : 0 < d) : n / d + 1 ≤ k ↔ n < k * d := by
  rw [Nat.add_one_le_iff, Nat.div_lt_iff_lt_mul pos]

/-- The last multiple of `d` below `m`: `m / d` steps, one fewer when `d` divides `m`. -/
theorem le_belowDiv_iff (pos : 0 < d) (positive : 0 < k) :
    k ≤ (if m % d != 0 then m / d else m / d - 1) ↔ k * d < m := by
  split
  · next rem =>
    rw [Nat.le_div_iff_mul_le pos]
    refine ⟨fun le => ?_, Nat.le_of_lt⟩
    rcases Nat.lt_or_eq_of_le le with lt | same
    · exact lt
    · -- a multiple of `d` leaves no remainder
      rw [← same, Nat.mul_mod_left] at rem
      simp at rem
  · next divisible =>
    have onGrid : m / d * d = m := Nat.div_mul_cancel (Nat.dvd_of_mod_eq_zero (by simpa using divisible))
    constructor
    · intro le
      have next := Nat.mul_le_mul_right d (show k + 1 ≤ m / d by omega)
      rw [Nat.add_mul, Nat.one_mul, onGrid] at next
      omega
    · intro lt
      rw [← onGrid] at lt
      have := Nat.lt_of_mul_lt_mul_right lt
      omega

end Division

/-- Every point of a grid range lies in the interval of the double: for `g` between the least
and the greatest point, `g · 10^t` rounds to it. The least point is at least one. -/
theorem gridRange_roundsTo {b : Binary} {t : Int} {gLo gHi : Nat} (range : gridRange b t = some (gLo, gHi)) :
    1 ≤ gLo ∧ gLo ≤ gHi ∧ ∀ g, gLo ≤ g → g ≤ gHi → b.RoundsTo (g * 10 ^ t) := by
  have gsPos := scales_pos b.exponent t
  unfold gridRange at range
  unfold Binary.RoundsTo
  generalize b.interval = iv at range ⊢
  obtain ⟨lo, v, hi, closed⟩ := iv
  dsimp only at range ⊢
  -- the ends are points of the interval exactly when it is closed
  cases closed with
  | false =>
    simp only [Bool.false_or, Option.ite_none_right_eq_some, Option.some.injEq, Prod.mk.injEq,
      Bool.and_eq_true, decide_eq_true_eq, Bool.false_eq_true, if_false] at range ⊢
    obtain ⟨⟨ordered, one⟩, rfl, rfl⟩ := range
    refine ⟨one, ordered, fun g above below => ⟨?_, ?_⟩⟩
    · exact (scaled_lt_grid_iff _ _ _ _).1 ((div_add_one_le_iff gsPos).1 above)
    · exact (grid_lt_scaled_iff _ _ _ _).1 ((le_belowDiv_iff gsPos (by omega)).1 below)
  | true =>
    simp only [Bool.true_or, if_true, Option.ite_none_right_eq_some, Option.some.injEq, Prod.mk.injEq,
      Bool.and_eq_true, decide_eq_true_eq] at range ⊢
    obtain ⟨⟨ordered, one⟩, rfl, rfl⟩ := range
    refine ⟨one, ordered, fun g above below => ⟨?_, ?_⟩⟩
    · exact (scaled_le_grid_iff _ _ _ _).1 ((ceilDiv_le_iff gsPos).1 above)
    · exact (grid_le_scaled_iff _ _ _ _).1 ((Nat.le_div_iff_mul_le gsPos).1 below)

/-- The point nearest the double is clamped into the range. -/
theorem nearestOnGrid_mem (b : Binary) (t : Int) {gLo gHi : Nat} (ordered : gLo ≤ gHi) :
    gLo ≤ nearestOnGrid b t gLo gHi ∧ nearestOnGrid b t gLo gHi ≤ gHi := by
  unfold nearestOnGrid
  exact ⟨le_max_left _ _, max_le ordered (min_le_left _ _)⟩

/-- A grid no coarser than the unit `2^(q-2)` has a point in the interval of a double whose
interval starts above zero and spans at least two units. -/
theorem gridRange_isSome {b : Binary} {t : Int} (low : 1 ≤ b.interval.1)
    (wide : b.interval.1 + 2 ≤ b.interval.2.2.1) (fine : (10 : ℚ) ^ t ≤ 2 ^ (b.exponent - 2)) :
    (gridRange b t).isSome := by
  have gsPos := scales_pos b.exponent t
  have gsLe : (scales b.exponent t).2 ≤ (scales b.exponent t).1 := by
    simpa using (grid_le_scaled_iff b.exponent t 1 1).2 (by simpa using fine)
  unfold gridRange
  generalize b.interval = iv at low wide ⊢
  obtain ⟨lo, v, hi, closed⟩ := iv
  dsimp only at low wide ⊢
  -- past the low end, the next grid point comes within one step, and the interval is wider
  have span : lo * (scales b.exponent t).1 + 2 * (scales b.exponent t).1 ≤ hi * (scales b.exponent t).1 := by
    rw [← Nat.add_mul]
    exact Nat.mul_le_mul_right _ wide
  have start : 1 ≤ lo * (scales b.exponent t).1 := Nat.mul_pos low (by omega)
  cases closed with
  | false =>
    simp only [Bool.false_or, Option.isSome_ite, Bool.and_eq_true, decide_eq_true_eq, Bool.false_eq_true,
      if_false]
    have below := Nat.div_mul_le_self (lo * (scales b.exponent t).1) (scales b.exponent t).2
    have step : (lo * (scales b.exponent t).1 / (scales b.exponent t).2 + 1) * (scales b.exponent t).2 <
        hi * (scales b.exponent t).1 := by
      rw [Nat.add_mul, Nat.one_mul]
      omega
    exact ⟨(le_belowDiv_iff gsPos (Nat.succ_pos _)).2 step, by simp⟩
  | true =>
    simp only [Bool.true_or, if_true, Option.isSome_ite, Bool.and_eq_true, decide_eq_true_eq]
    have ceil : ceilDiv (lo * (scales b.exponent t).1) (scales b.exponent t).2 * (scales b.exponent t).2 ≤
        lo * (scales b.exponent t).1 + (scales b.exponent t).2 - 1 :=
      Nat.div_mul_le_self _ _
    exact ⟨(Nat.le_div_iff_mul_le gsPos).2 (by omega), (Nat.le_div_iff_mul_le gsPos).2 (by omega)⟩

/-- What the search reports is the nearest point of a grid range. -/
theorem searchGrid_found {b : Binary} {g : Nat} {t' : Int} :
    ∀ {fuel : Nat} {t : Int}, searchGrid b fuel t = some (g, t') →
      ∃ gLo gHi, gridRange b t' = some (gLo, gHi) ∧ g = nearestOnGrid b t' gLo gHi
  | 0, _, found => by cases found
  | fuel + 1, t, found => by
    unfold searchGrid at found
    split at found
    · next gLo gHi range =>
      simp only [Option.some.injEq, Prod.mk.injEq] at found
      obtain ⟨rfl, rfl⟩ := found
      exact ⟨gLo, gHi, range, rfl⟩
    · exact searchGrid_found found

/-- The search reports a point when one of the grids it tries has one. -/
theorem searchGrid_isSome {b : Binary} :
    ∀ {fuel : Nat} {t : Int} (k : Nat), k < fuel → (gridRange b (t - k)).isSome → (searchGrid b fuel t).isSome
  | fuel + 1, t, k, within, found => by
    unfold searchGrid
    split
    · rfl
    · next none =>
      cases k with
      | zero => simp [none] at found
      | succ k =>
        have shift : t - ((k + 1 : Nat) : Int) = t - 1 - k := by push_cast; ring
        exact searchGrid_isSome k (by omega) (by rwa [shift] at found)

/-- `10^d ≤ 2^(a+1)` when `d ≤ 0.30103 · a`: `10^0.30103` exceeds 2 by so little that the
excess stays within one binade up to `a = 100000`. -/
theorem ten_zpow_le_two_zpow {a d : Int} (scaled : 100000 * d ≤ 30103 * a) (small : a ≤ 100000) :
    (10 : ℚ) ^ d ≤ 2 ^ (a + 1) := by
  have tenOne : (1 : ℚ) ≤ 10 := by norm_num
  have twoOne : (1 : ℚ) ≤ 2 := by norm_num
  refine (zpow_le_zpow_iff_left₀ (by positivity) (by positivity) (by norm_num : (0 : Int) < 100000)).1 ?_
  rw [← zpow_mul, ← zpow_mul]
  calc (10 : ℚ) ^ (d * 100000) ≤ 10 ^ ((30103 : Nat) * a) := zpow_le_zpow_right₀ tenOne (by push_cast; linarith)
    _ = ((10 : ℚ) ^ 30103) ^ a := by rw [zpow_mul, zpow_natCast]
    _ ≤ 2 ^ ((a + 1) * 100000) := ?_
  by_cases sign : 0 ≤ a
  · have bound : (10 : ℚ) ^ 30103 ≤ 2 ^ 100001 := by
      have h : 10 ^ 30103 ≤ 2 ^ 100001 := by decide +kernel
      exact_mod_cast h
    calc ((10 : ℚ) ^ 30103) ^ a ≤ ((2 : ℚ) ^ 100001) ^ a := zpow_le_zpow_left₀ sign (by positivity) bound
      _ = 2 ^ ((100001 : Nat) * a) := by rw [zpow_mul, zpow_natCast]
      _ ≤ 2 ^ ((a + 1) * 100000) := zpow_le_zpow_right₀ twoOne (by push_cast; linarith)
  · -- a negative exponent turns the comparison of the bases round
    have bound : (2 : ℚ) ^ 100000 ≤ 10 ^ 30103 := by
      have h : 2 ^ 100000 ≤ 10 ^ 30103 := by decide +kernel
      exact_mod_cast h
    have flipped := zpow_le_zpow_left₀ (by linarith : (0 : Int) ≤ -a) (by positivity) bound
    calc ((10 : ℚ) ^ 30103) ^ a = (((10 : ℚ) ^ 30103) ^ (-a))⁻¹ := by rw [zpow_neg, inv_inv]
      _ ≤ (((2 : ℚ) ^ 100000) ^ (-a))⁻¹ := inv_anti₀ (by positivity) flipped
      _ = 2 ^ ((100000 : Nat) * a) := by rw [zpow_neg, inv_inv, zpow_mul, zpow_natCast]
      _ ≤ 2 ^ ((a + 1) * 100000) := zpow_le_zpow_right₀ twoOne (by push_cast; linarith)

/-- Twenty-three grids below the bound the search starts from, the grid is no coarser than the
unit `2^(q-2)` of any double's interval. -/
theorem finest_grid_le (b : Binary) (small : b.exponent ≤ 971) :
    (10 : ℚ) ^ (coarsestGrid b - 23) ≤ 2 ^ (b.exponent - 2) := by
  have scaled : 100000 * ((b.exponent + 53) * 30103 / 100000) ≤ 30103 * (b.exponent + 53) := by
    have := Int.ediv_mul_le ((b.exponent + 53) * 30103) (by norm_num : (100000 : Int) ≠ 0)
    linarith
  have coarse := ten_zpow_le_two_zpow scaled (by omega)
  have shift : coarsestGrid b - 23 = (b.exponent + 53) * 30103 / 100000 - 21 := by
    unfold coarsestGrid
    ring
  rw [shift, zpow_sub₀ (by norm_num), show b.exponent - 2 = b.exponent + 53 + 1 - 56 by ring,
    zpow_sub₀ (by norm_num)]
  calc (10 : ℚ) ^ ((b.exponent + 53) * 30103 / 100000) / 10 ^ (21 : Int)
      ≤ 2 ^ (b.exponent + 53 + 1) / 10 ^ (21 : Int) := by gcongr
    _ ≤ 2 ^ (b.exponent + 53 + 1) / 2 ^ (56 : Int) := by gcongr; norm_num

/-- A finite double has a mantissa of at least one and an exponent of at most 971. -/
theorem classify_finite_bounds {x : Float} {negative : Bool} {b : Binary}
    (finite : classify x = .finite negative b) : 1 ≤ b.mantissa ∧ b.exponent ≤ 971 := by
  unfold classify at finite
  simp only [Nat.pow_eq, Nat.reducePow] at finite
  split_ifs at finite <;> cases finite
  · exact ⟨Nat.one_le_iff_ne_zero.2 (by assumption), by norm_num⟩
  · have exponent := Nat.mod_lt (x.toBits.toNat / 4503599627370496) (by norm_num : 0 < 2048)
    dsimp only
    exact ⟨by omega, by omega⟩

/-- The interval of a double with a positive mantissa starts above zero and spans at least
three units. -/
theorem Number.Binary.interval_bounds (b : Binary) (positive : 1 ≤ b.mantissa) :
    1 ≤ b.interval.1 ∧ b.interval.1 + 3 ≤ b.interval.2.2.1 := by
  unfold Binary.interval
  dsimp only
  split <;> omega

/-- The shortest digits of a finite double: a positive number `g` with `g · 10^t` rounding to
the double. -/
theorem shortestDigits_roundsTo {b : Binary} (positive : 1 ≤ b.mantissa) (small : b.exponent ≤ 971) :
    1 ≤ (shortestDigits b).1 ∧ b.RoundsTo ((shortestDigits b).1 * 10 ^ (shortestDigits b).2) := by
  obtain ⟨low, wide⟩ := b.interval_bounds positive
  have fine := gridRange_isSome low (by omega) (finest_grid_le b small)
  have found : (searchGrid b 24 (coarsestGrid b)).isSome :=
    searchGrid_isSome 23 (by norm_num) (by simpa using fine)
  obtain ⟨⟨g, t⟩, search⟩ := Option.isSome_iff_exists.1 found
  obtain ⟨gLo, gHi, range, rfl⟩ := searchGrid_found search
  obtain ⟨one, ordered, rounds⟩ := gridRange_roundsTo range
  have near := nearestOnGrid_mem b t ordered
  unfold shortestDigits
  rw [search]
  exact ⟨one.trans near.1, rounds _ near.1 near.2⟩

/-! ## The text of a double -/

theorem signText_toList (negative : Bool) : (if negative then "-" else "").toList = signChars negative := by
  cases negative <;> rfl

/-- The text of a finite nonzero double, in any style, is one numeral of the double's sign whose
magnitude rounds to the double. -/
theorem readNumeral_formatFloat_finite (style : FloatStyle) {x : Float} {negative : Bool} {b : Binary}
    (finite : classify x = .finite negative b) :
    ∃ num : Numeral, readNumeral (formatFloat style x).toList = some (num, []) ∧ num.negative = negative ∧
      b.RoundsTo (num.digits * 10 ^ num.exponent) := by
  obtain ⟨positive, small⟩ := classify_finite_bounds finite
  have rounds := (shortestDigits_roundsTo positive small).2
  unfold formatFloat
  rw [finite]
  dsimp only
  rw [String.toList_append, signText_toList]
  obtain ⟨num, read, sign, value⟩ := readNumeral_placeDigits negative style
    (fun _ => isDigit_of_mem_decimalDigits) (decimalDigits_ne_nil (shortestDigits b).1)
    ((decimalDigits (shortestDigits b).1).length + (shortestDigits b).2)
  refine ⟨num, read, sign, ?_⟩
  rw [value, digitsValue_decimalDigits, add_sub_cancel_left]
  exact rounds

/-- The text of a zero is a numeral of its sign standing for zero. -/
theorem readNumeral_formatFloat_zero (style : FloatStyle) {x : Float} {negative : Bool}
    (zero : classify x = .zero negative) :
    ∃ num : Numeral, readNumeral (formatFloat style x).toList = some (num, []) ∧ num.negative = negative ∧
      num.digits = 0 := by
  unfold formatFloat
  rw [zero]
  dsimp only
  cases negative
  · exact ⟨⟨false, 0, -1⟩, by decide, rfl, rfl⟩
  · exact ⟨⟨true, 0, -1⟩, by decide, rfl, rfl⟩

end SqlMapper
