/-!
# Estimates on a logarithmic scale

The planner weighs row counts and costs on a logarithmic scale: an estimate
`e` stands for about `2 ^ (e / 10)` rows or steps, so that multiplying two
counts adds their estimates. A count is read onto the scale through the
eighths of an octave: its top four bits pick a step of the table
`0, 2, 3, 5, 6, 7, 8, 9`, and each doubling adds ten. Two estimates add by
taking the larger and a bonus that shrinks as they grow apart, nothing once
they are fifty apart.
-/

namespace SqlMapper.Database

/-- The steps within an octave, by the three bits after the leading one. -/
def octaveSteps : List Int := [0, 2, 3, 5, 6, 7, 8, 9]

/-- The estimates of the counts below eight. -/
def smallEstimates : List Int := [0, 0, 10, 16, 20, 23, 26, 28]

/-- The estimate of a count: ten times its base-two logarithm, rounded by
the steps of an octave. -/
def logEst (x : Nat) : Int :=
  if x < 8 then smallEstimates.getD x 0
  else
    let shift := Nat.log2 x - 3
    let top := x >>> shift
    octaveSteps.getD (top - 8) 0 + 30 + 10 * shift

/-- The bonus the smaller of two estimates adds to the larger, by their distance. -/
def additionBonus (d : Nat) : Int :=
  if d < 2 then 10 else if d < 4 then 9 else if d < 6 then 8 else if d < 9 then 7
  else if d < 12 then 6 else if d < 15 then 5 else if d < 19 then 4 else if d < 25 then 3
  else if d < 32 then 2 else if d < 50 then 1 else 0

/-- The estimate of the sum of two counts from their estimates. -/
def logEstAdd (a b : Int) : Int := max a b + additionBonus (max a b - min a b).toNat

/-- The estimate of the logarithm of a count, from the count's estimate:
nothing for counts up to two. -/
def estLog (n : Int) : Int := if n ≤ 10 then 0 else logEst n.toNat - 33

example : logEst 10 = 33 ∧ logEst 20 = 43 ∧ logEst 25 = 46 ∧ logEst 1000 = 99 ∧ logEst 1048576 = 200 := by
  decide

example : logEstAdd 43 43 = 53 ∧ logEstAdd 190 196 = 203 ∧ logEstAdd 216 254 = 255 := by decide

end SqlMapper.Database
