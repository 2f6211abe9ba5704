import Mathlib.Algebra.Group.Nat.Defs
import Mathlib.Order.MinMax
import SqlShape.Double.Basic

/-!
# The double nearest to an integer

A positive integer is shifted until it has fifty-three bits, and what falls off is rounded (`Double.significandOf`). The
magnitude of the nearest double is read off the number of bits and the rounded significand (`Double.ratioMagnitude_one`).
So the order of integers is kept, and below `2 ^ 53`, where nothing falls off, the strict order as well.
-/

namespace SqlShape.Double

/-! ## Halves to the even neighbour -/

section Quotients

variable {num num' den : Nat}

/-- Less than half is dropped. -/
theorem divHalfEven_of_lt (below : 2 * (num % den) < den) : divHalfEven num den = num / den :=
  if_pos below

/-- More than half counts as one. -/
theorem divHalfEven_of_gt (above : den < 2 * (num % den)) : divHalfEven num den = num / den + 1 := by
  unfold divHalfEven
  dsimp only
  rw [if_neg (by omega), if_pos above]

/-- Rounding goes to a neighbour. -/
theorem divHalfEven_bounds (num den : Nat) :
    num / den ≤ divHalfEven num den ∧ divHalfEven num den ≤ num / den + 1 := by
  unfold divHalfEven
  dsimp only
  split
  · omega
  · split
    · omega
    · split <;> omega

/-- Rounding keeps the order. -/
theorem divHalfEven_mono (le : num ≤ num') : divHalfEven num den ≤ divHalfEven num' den := by
  have upper := (divHalfEven_bounds num den).2
  have lower := (divHalfEven_bounds num' den).1
  rcases Nat.lt_or_eq_of_le (Nat.div_le_div_right (c := den) le) with apart | same
  · omega
  · -- With one quotient the remainders decide, and they are in the same order.
    have remainders : num % den ≤ num' % den := by
      have whole := Nat.div_add_mod num den
      have whole' := Nat.div_add_mod num' den
      rw [← same] at whole'
      omega
    rcases Nat.lt_trichotomy (2 * (num % den)) den with below | half | above
    · rw [divHalfEven_of_lt below]
      omega
    · rcases Nat.lt_or_eq_of_le remainders with later | equal
      · have above' : den < 2 * (num' % den) := by omega
        rw [divHalfEven_of_gt above']
        omega
      · have one : num = num' := by
          rw [← Nat.div_add_mod num den, ← Nat.div_add_mod num' den, same, equal]
        rw [one]
    · have above' : den < 2 * (num' % den) := by omega
      rw [divHalfEven_of_gt above']
      omega

/-- A multiple is not rounded. -/
theorem divHalfEven_mul (n : Nat) (positive : 0 < den) : divHalfEven (n * den) den = n := by
  rw [divHalfEven_of_lt (by rwa [Nat.mul_mod_left]), Nat.mul_div_cancel n positive]

end Quotients

/-! ## Significands of fifty-three bits -/

/-- The significand of fifty-three bits nearest to a positive integer. -/
def significandOf (n : Nat) : Nat :=
  divHalfEven (n * 2 ^ (52 - n.log2)) (2 ^ (n.log2 - 52))

variable {n n' : Nat}

/-- Shifted, an integer has fifty-three bits. -/
theorem shifted_bounds (positive : n ≠ 0) :
    exponentUnit * 2 ^ (n.log2 - 52) ≤ n * 2 ^ (52 - n.log2) ∧
      n * 2 ^ (52 - n.log2) < 2 * exponentUnit * 2 ^ (n.log2 - 52) := by
  have unit : exponentUnit = 2 ^ 52 := rfl
  have double : 2 * exponentUnit = 2 ^ 53 := rfl
  have lower : 2 ^ n.log2 ≤ n := Nat.log2_self_le positive
  have upper : n < 2 ^ (n.log2 + 1) := Nat.lt_log2_self
  rw [double, unit]
  by_cases small : n.log2 ≤ 52
  · have flat : n.log2 - 52 = 0 := by omega
    have up : 2 ^ n.log2 * 2 ^ (52 - n.log2) = 2 ^ 52 := by
      rw [← Nat.pow_add, Nat.add_sub_cancel' small]
    have up' : 2 ^ (n.log2 + 1) * 2 ^ (52 - n.log2) = 2 ^ 53 := by
      rw [Nat.pow_succ', Nat.mul_assoc, up, ← Nat.pow_succ']
    rw [flat, Nat.pow_zero, Nat.mul_one, Nat.mul_one, ← up, ← up']
    exact ⟨Nat.mul_le_mul_right _ lower, Nat.mul_lt_mul_of_pos_right upper (Nat.two_pow_pos _)⟩
  · have flat : 52 - n.log2 = 0 := by omega
    have down : 52 + (n.log2 - 52) = n.log2 := by omega
    have down' : 53 + (n.log2 - 52) = n.log2 + 1 := by omega
    rw [flat, Nat.pow_zero, Nat.mul_one, ← Nat.pow_add, ← Nat.pow_add, down, down']
    exact ⟨lower, upper⟩

/-- A significand has fifty-three bits, or is rounded up to the next power of two. -/
theorem significandOf_bounds (positive : n ≠ 0) :
    exponentUnit ≤ significandOf n ∧ significandOf n ≤ 2 * exponentUnit := by
  obtain ⟨lower, upper⟩ := shifted_bounds positive
  have down : 0 < 2 ^ (n.log2 - 52) := Nat.two_pow_pos _
  constructor
  · rw [← divHalfEven_mul exponentUnit down]
    exact divHalfEven_mono lower
  · rw [← divHalfEven_mul (2 * exponentUnit) down]
    exact divHalfEven_mono upper.le

theorem log2_le_of_lt (small : n < 2 ^ 53) : n.log2 ≤ 52 := by
  by_cases zero : n = 0
  · rw [zero]
    decide
  · have := (Nat.log2_lt zero).2 small
    omega

/-- An integer below `2 ^ 53` is its own significand, shifted. -/
theorem significandOf_of_lt (small : n < 2 ^ 53) : significandOf n = n * 2 ^ (52 - n.log2) := by
  have flat : 2 ^ (n.log2 - 52) = 1 := by
    rw [Nat.sub_eq_zero_of_le (log2_le_of_lt small), Nat.pow_zero]
  unfold significandOf
  rw [flat, ← Nat.mul_one (n * 2 ^ (52 - n.log2)), divHalfEven_mul _ Nat.one_pos, Nat.mul_one]

/-! ## Magnitudes -/

theorem powerOfTwo_natCast (k : Nat) : powerOfTwo k = (2 ^ k, 1) :=
  if_pos (Int.natCast_nonneg k)

theorem powerOfTwo_neg_natCast (k : Nat) : powerOfTwo (-k) = (1, 2 ^ k) := by
  unfold powerOfTwo
  split
  next nonneg =>
    obtain rfl : k = 0 := by omega
    rfl
  next =>
    rw [Int.neg_neg, Int.toNat_natCast]
    rfl

/-- The shift that leaves fifty-three bits, upwards or downwards. -/
theorem powerOfTwo_shift (k : Nat) : powerOfTwo (-((k : Int) - 52)) = (2 ^ (52 - k), 2 ^ (k - 52)) := by
  by_cases small : k ≤ 52
  · have shift : -((k : Int) - 52) = ((52 - k : Nat) : Int) := by omega
    rw [shift, powerOfTwo_natCast, Nat.sub_eq_zero_of_le small, Nat.pow_zero]
  · have shift : -((k : Int) - 52) = -((k - 52 : Nat) : Int) := by omega
    rw [shift, powerOfTwo_neg_natCast, Nat.sub_eq_zero_of_le (Nat.le_of_not_le small), Nat.pow_zero]

/-- A whole number is scaled so that fifty-three bits are left. -/
theorem ratioScale_one (positive : n ≠ 0) : ratioScale n 1 = n.log2 - 52 := by
  have guess : (n.log2 : Int) - (Nat.log2 1 : Int) - 52 = n.log2 - 52 := by
    rw [show Nat.log2 1 = 0 by decide]
    omega
  unfold ratioScale
  simp only [guess, powerOfTwo_shift, Nat.one_mul]
  rw [if_neg (shifted_bounds positive).1.not_gt]
  omega

/-- The magnitude of the double nearest to a positive integer. -/
theorem ratioMagnitude_one (positive : n ≠ 0) : ratioMagnitude n 1 =
    min ((n.log2 + 1022) * exponentUnit + significandOf n) infinityMagnitude := by
  have field : ((n.log2 : Int) - 52 + 1074).toNat = n.log2 + 1022 := by omega
  unfold ratioMagnitude
  rw [if_neg positive]
  simp only [ratioScale_one positive, powerOfTwo_shift, field, Nat.one_mul]
  rfl

/-- No whole number is rounded beyond infinity. -/
theorem ratioMagnitude_le (n : Nat) : ratioMagnitude n 1 ≤ infinityMagnitude := by
  by_cases zero : n = 0
  · rw [zero]
    exact Nat.zero_le _
  · rw [ratioMagnitude_one zero]
    exact Nat.min_le_right _ _

/-- No whole number but zero is rounded to zero. -/
theorem ratioMagnitude_pos (positive : n ≠ 0) : 0 < ratioMagnitude n 1 := by
  have := (significandOf_bounds positive).1
  have : 0 < exponentUnit := by decide
  have : 0 < infinityMagnitude := by decide
  rw [ratioMagnitude_one positive]
  omega

/-- The magnitude of a number with more bits is at least a power of two above all with fewer. -/
theorem unit_le_of_log2_lt (positive' : n' ≠ 0) (fewer : n.log2 < n'.log2) :
    (n.log2 + 1022) * exponentUnit + 2 * exponentUnit ≤ (n'.log2 + 1022) * exponentUnit + significandOf n' := by
  have lower := (significandOf_bounds positive').1
  have fields : (n.log2 + 1022 + 1) * exponentUnit ≤ (n'.log2 + 1022) * exponentUnit :=
    Nat.mul_le_mul_right _ (by omega)
  rw [Nat.succ_mul] at fields
  omega

theorem log2_le_log2 (positive : n ≠ 0) (le : n ≤ n') : n.log2 ≤ n'.log2 :=
  (Nat.le_log2 (by omega)).2 ((Nat.log2_self_le positive).trans le)

/-- The order of integers is kept. -/
theorem ratioMagnitude_mono (le : n ≤ n') : ratioMagnitude n 1 ≤ ratioMagnitude n' 1 := by
  by_cases zero : n = 0
  · rw [zero]
    exact Nat.zero_le _
  · have zero' : n' ≠ 0 := by omega
    rw [ratioMagnitude_one zero, ratioMagnitude_one zero']
    apply min_le_min_right
    rcases Nat.lt_or_eq_of_le (log2_le_log2 zero le) with fewer | same
    · exact (Nat.add_le_add_left (significandOf_bounds zero).2 _).trans (unit_le_of_log2_lt zero' fewer)
    · unfold significandOf
      rw [same]
      exact Nat.add_le_add_left (divHalfEven_mono (Nat.mul_le_mul_right _ le)) _

/-- From an integer below `2 ^ 53` the strict order is kept. -/
theorem ratioMagnitude_lt (small : n < 2 ^ 53) (lt : n < n') : ratioMagnitude n 1 < ratioMagnitude n' 1 := by
  have zero' : n' ≠ 0 := by omega
  by_cases zero : n = 0
  · rw [zero]
    exact ratioMagnitude_pos zero'
  · have bits := log2_le_of_lt small
    have upper := (shifted_bounds zero).2
    rw [← significandOf_of_lt small, Nat.sub_eq_zero_of_le bits, Nat.pow_zero, Nat.mul_one] at upper
    have finite : (n.log2 + 1022) * exponentUnit + 2 * exponentUnit ≤ infinityMagnitude := by
      rw [← Nat.add_mul]
      exact Nat.mul_le_mul_right _ (by omega)
    rw [ratioMagnitude_one zero, ratioMagnitude_one zero']
    refine (Nat.min_le_left _ _).trans_lt (Nat.lt_min.2 ⟨?_, (Nat.add_lt_add_left upper _).trans_le finite⟩)
    rcases Nat.lt_or_eq_of_le (log2_le_log2 zero lt.le) with fewer | same
    · exact (Nat.add_lt_add_left upper _).trans_le (unit_le_of_log2_lt zero' fewer)
    · -- The larger number has as many bits, so nothing falls off it either.
      have small' : n' < 2 ^ 53 := (Nat.log2_lt zero').1 (by omega)
      rw [significandOf_of_lt small, significandOf_of_lt small', ← same]
      exact Nat.add_lt_add_left (Nat.mul_lt_mul_of_pos_right lt (Nat.two_pow_pos _)) _

/-! ## Integers on the line -/

section Magnitudes

variable {magnitude : Nat}

/-- The sign is the highest bit. -/
theorem toNat_ofMagnitude (negative : Bool) (le : magnitude ≤ infinityMagnitude) :
    (ofMagnitude negative magnitude).bits.toNat = if negative then signUnit + magnitude else magnitude := by
  have words : infinityMagnitude + signUnit < 2 ^ 64 := by decide
  apply Nat.mod_eq_of_lt
  split <;> omega

/-- The magnitude can be taken out again. -/
theorem magnitude_ofMagnitude (negative : Bool) (le : magnitude ≤ infinityMagnitude) :
    (ofMagnitude negative magnitude).magnitude = magnitude := by
  have below : magnitude < signUnit := le.trans_lt (by decide)
  unfold Double.magnitude
  rw [toNat_ofMagnitude negative le]
  split
  · rw [Nat.add_mod_left, Nat.mod_eq_of_lt below]
  · exact Nat.mod_eq_of_lt below

/-- The sign can be taken out again. -/
theorem negative_ofMagnitude (negative : Bool) (le : magnitude ≤ infinityMagnitude) :
    (ofMagnitude negative magnitude).negative = negative := by
  have below : magnitude < signUnit := le.trans_lt (by decide)
  unfold Double.negative
  rw [toNat_ofMagnitude negative le]
  cases negative with
  | false => exact decide_eq_false below.not_ge
  | true => exact decide_eq_true (Nat.le_add_right _ _)

/-- A magnitude up to infinity is that of a number. -/
theorem isNaN_ofMagnitude (negative : Bool) (le : magnitude ≤ infinityMagnitude) :
    (ofMagnitude negative magnitude).isNaN = false := by
  have units : magnitude = exponentUnit * (magnitude / exponentUnit) + magnitude % exponentUnit :=
    (Nat.div_add_mod _ _).symm
  have infinite : infinityMagnitude = exponentUnit * 2047 := by decide
  unfold isNaN exponentField fraction
  rw [magnitude_ofMagnitude negative le, Bool.and_eq_false_iff, decide_eq_false_iff_not, decide_eq_false_iff_not]
  by_cases top : magnitude / exponentUnit = 2047
  · rw [top] at units
    omega
  · exact .inl top

/-- A magnitude below infinity is that of a finite number. -/
theorem isFinite_ofMagnitude (negative : Bool) (below : magnitude < infinityMagnitude) :
    (ofMagnitude negative magnitude).isFinite = true := by
  unfold isFinite exponentField
  rw [magnitude_ofMagnitude negative below.le]
  exact decide_eq_true (Nat.div_lt_of_lt_mul (below.trans_eq (Nat.mul_comm _ _)))

end Magnitudes

variable {x y : Int}

@[simp]
theorem isNaN_ofInt (x : Int) : (ofInt x).isNaN = false :=
  isNaN_ofMagnitude _ (ratioMagnitude_le _)

/-- Integers of 64 bits have finite doubles. -/
theorem isFinite_ofInt (word : x.natAbs ≤ 2 ^ 64) : (ofInt x).isFinite = true := by
  have largest : ratioMagnitude (2 ^ 64) 1 < infinityMagnitude := by decide
  exact isFinite_ofMagnitude _ ((ratioMagnitude_mono word).trans_lt largest)

/-- The place of an integer on the line is its rounded magnitude with its sign. -/
theorem rank_ofInt (x : Int) :
    (ofInt x).rank = if x < 0 then -(ratioMagnitude x.natAbs 1 : Int) else ratioMagnitude x.natAbs 1 := by
  unfold rank ofInt ofRatio
  rw [magnitude_ofMagnitude _ (ratioMagnitude_le _), negative_ofMagnitude _ (ratioMagnitude_le _)]
  simp only [decide_eq_true_eq]

/-- Doubles of integers are ordered by their ranks. -/
theorem le_ofInt : (ofInt x).le (ofInt y) = decide ((ofInt x).rank ≤ (ofInt y).rank) := by
  simp only [le, isNaN_ofInt, Bool.not_false, Bool.true_and]

/-- The order of integers is kept. -/
theorem rank_ofInt_mono (le : x ≤ y) : (ofInt x).rank ≤ (ofInt y).rank := by
  rw [rank_ofInt, rank_ofInt]
  by_cases negative : y < 0
  · have reversed : y.natAbs ≤ x.natAbs := by omega
    have := ratioMagnitude_mono reversed
    rw [if_pos negative, if_pos (by omega)]
    omega
  · rw [if_neg negative]
    split
    · omega
    · have kept : x.natAbs ≤ y.natAbs := by omega
      have := ratioMagnitude_mono kept
      omega

/-- A number whose magnitude is below `2 ^ 53` is kept apart from all others. -/
theorem rank_ofInt_lt (lt : x < y) (small : x.natAbs < 2 ^ 53 ∨ y.natAbs < 2 ^ 53) :
    (ofInt x).rank < (ofInt y).rank := by
  rw [rank_ofInt, rank_ofInt]
  by_cases negative : y < 0
  · have reversed : y.natAbs < x.natAbs := by omega
    have := ratioMagnitude_lt (by omega) reversed
    rw [if_pos negative, if_pos (by omega)]
    omega
  · rw [if_neg negative]
    split
    next below =>
      have := ratioMagnitude_pos (n := x.natAbs) (by omega)
      omega
    next =>
      have kept : x.natAbs < y.natAbs := by omega
      have := ratioMagnitude_lt (by omega) kept
      omega

theorem rank_ofInt_neg : (ofInt x).rank < 0 ↔ x < 0 := by
  rw [rank_ofInt]
  split
  next below =>
    have := ratioMagnitude_pos (n := x.natAbs) (by omega)
    omega
  next => omega

/-- Zero has one double here, so the rank tells all. -/
theorem ofInt_eq_iff : ofInt x = ofInt y ↔ (ofInt x).rank = (ofInt y).rank := by
  constructor
  · exact congrArg rank
  · intro same
    have signs : x < 0 ↔ y < 0 := by
      rw [← rank_ofInt_neg, same, rank_ofInt_neg]
    have magnitudes : ratioMagnitude x.natAbs 1 = ratioMagnitude y.natAbs 1 := by
      rw [rank_ofInt, rank_ofInt] at same
      by_cases below : x < 0
      · rw [if_pos below, if_pos (signs.mp below)] at same
        omega
      · rw [if_neg below, if_neg (mt signs.mpr below)] at same
        omega
    unfold ofInt ofRatio
    rw [magnitudes, decide_eq_decide.mpr signs]

/-- Of integers with different doubles the order is told by the ranks. -/
theorem rank_ofInt_le_iff (apart : ofInt x ≠ ofInt y) : (ofInt x).rank ≤ (ofInt y).rank ↔ x ≤ y := by
  constructor
  · intro le
    by_contra above
    exact apart (ofInt_eq_iff.mpr (le.antisymm (rank_ofInt_mono (not_le.mp above).le)))
  · exact rank_ofInt_mono

/-- Below `2 ^ 53` no two integers have one double. -/
theorem eq_of_ofInt_eq (small : x.natAbs < 2 ^ 53 ∨ y.natAbs < 2 ^ 53) (same : ofInt x = ofInt y) : x = y := by
  have ranks := ofInt_eq_iff.mp same
  rcases lt_trichotomy x y with below | equal | above
  · exact absurd ranks (rank_ofInt_lt below small).ne
  · exact equal
  · exact absurd ranks (rank_ofInt_lt above small.symm).ne'

end SqlShape.Double
