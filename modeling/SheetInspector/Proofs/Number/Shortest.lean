import Mathlib.Tactic
import SheetInspector.Number.Shortest

set_option autoImplicit false

/-! # Shortest decimals round to their number

The positive numbers cut the positive reals into intervals, one for each ordinal, of which every
one begins where the one before it ends (`border`). An end belongs to the interval whose ordinal is
even, so no real rounds to two numbers (`Rounds.unique`). Neighbours on the grid of the decimals
with seventeen digits are closer together than the ends of the interval around them, so one of the
two around the number rounds to it. Hence the search for a shortest decimal always finds one, and
it rounds to the number (`shortest_rounds`).
-/

namespace SheetInspector.Number

variable {ordinal other : Nat} {x : ℚ}

/-! ## Mantissas and exponents -/

/-- How far the interval of an ordinal reaches below its number, in units of a quarter of its last
place: half of a place as on the other side, or half of that where the places get smaller. -/
def below (ordinal : Nat) : Nat :=
  if mantissa ordinal = fractionCount ∧ 2 * fractionCount ≤ ordinal then 1 else 2

theorem fractionCount_eq : fractionCount = 4503599627370496 := rfl

theorem mantissa_lt (ordinal : Nat) : mantissa ordinal < 2 * fractionCount := by
  unfold mantissa
  rw [fractionCount_eq]
  split_ifs with h
  · omega
  · omega

theorem mantissa_pos (h : 0 < ordinal) : 0 < mantissa ordinal := by
  unfold mantissa
  rw [fractionCount_eq]
  split_ifs with hlt
  · exact h
  · omega

/-- A mantissa is even where the ordinal is. -/
theorem mantissa_mod_two (ordinal : Nat) : mantissa ordinal % 2 = ordinal % 2 := by
  unfold mantissa
  rw [fractionCount_eq]
  split_ifs with h
  · rfl
  · omega

/-- **The next ordinal** has the next mantissa, or else the least one with the next exponent. -/
theorem mantissa_succ (ordinal : Nat) :
    mantissa (ordinal + 1) = mantissa ordinal + 1 ∧ exponent (ordinal + 1) = exponent ordinal ∧
        below (ordinal + 1) = 2 ∨
      mantissa ordinal + 1 = 2 * fractionCount ∧ mantissa (ordinal + 1) = fractionCount ∧
        exponent (ordinal + 1) = exponent ordinal + 1 ∧ below (ordinal + 1) = 1 := by
  unfold below mantissa exponent
  rw [fractionCount_eq]
  split_ifs
  all_goals omega

theorem below_cases (ordinal : Nat) :
    below ordinal = 2 ∨ below ordinal = 1 ∧ mantissa ordinal = fractionCount := by
  unfold below
  split_ifs with h
  · exact .inr ⟨rfl, h.1⟩
  · exact .inl rfl

/-! ## The reals that round to a number -/

/-- A quarter of the last place of a magnitude. -/
def quarter (ordinal : Nat) : ℚ := 2 ^ (exponent ordinal - 2)

/-- The magnitude with an ordinal. -/
def magnitude (ordinal : Nat) : ℚ := 4 * mantissa ordinal * quarter ordinal

/-- Where the reals that round to a magnitude begin. -/
def border (ordinal : Nat) : ℚ := (4 * mantissa ordinal - below ordinal) * quarter ordinal

theorem quarter_pos (ordinal : Nat) : 0 < quarter ordinal := zpow_pos (by norm_num) _

theorem magnitude_pos (h : 0 < ordinal) : 0 < magnitude ordinal := by
  have hm : (0 : ℚ) < mantissa ordinal := by exact_mod_cast mantissa_pos h
  have hq := quarter_pos ordinal
  unfold magnitude
  positivity

/-- The reals that round to a magnitude end where those of the next one begin. -/
theorem border_succ (ordinal : Nat) :
    border (ordinal + 1) = (4 * mantissa ordinal + 2) * quarter ordinal := by
  unfold border
  rcases mantissa_succ ordinal with ⟨hm, he, hb⟩ | ⟨htop, hm, he, hb⟩
  · have hq : quarter (ordinal + 1) = quarter ordinal := by rw [quarter, quarter, he]
    rw [hm, hb, hq]
    push_cast
    ring
  · -- a place of the next exponent is two of this one
    have hq : quarter (ordinal + 1) = 2 * quarter ordinal := by
      rw [quarter, quarter, he, add_sub_right_comm, zpow_add_one₀ (by norm_num), mul_comm]
    have htop : (mantissa ordinal : ℚ) + 1 = 2 * fractionCount := by exact_mod_cast htop
    rw [hm, hb, hq, Nat.cast_one]
    linear_combination (-4 * quarter ordinal) * htop

theorem border_lt_magnitude (ordinal : Nat) : border ordinal < magnitude ordinal := by
  have hq := quarter_pos ordinal
  have hb : (1 : ℚ) ≤ below ordinal := by
    rcases below_cases ordinal with hb | ⟨hb, -⟩
    · norm_num [hb]
    · norm_num [hb]
  unfold border magnitude
  nlinarith only [hq, hb]

theorem magnitude_lt_border (ordinal : Nat) : magnitude ordinal < border (ordinal + 1) := by
  have hq := quarter_pos ordinal
  rw [border_succ, magnitude]
  linarith only [hq]

theorem strictMono_border : StrictMono border :=
  strictMono_nat_of_lt_succ fun ordinal =>
    (border_lt_magnitude ordinal).trans (magnitude_lt_border ordinal)

/-- Whether a real rounds to the magnitude with an ordinal. -/
def Rounds (ordinal : Nat) (x : ℚ) : Prop :=
  if mantissa ordinal % 2 = 0 then border ordinal ≤ x ∧ x ≤ border (ordinal + 1)
  else border ordinal < x ∧ x < border (ordinal + 1)

theorem Rounds.le (h : Rounds ordinal x) : border ordinal ≤ x ∧ x ≤ border (ordinal + 1) := by
  unfold Rounds at h
  split_ifs at h with heven
  · exact h
  · exact ⟨h.1.le, h.2.le⟩

theorem rounds_of_lt (hlow : border ordinal < x) (hhigh : x < border (ordinal + 1)) :
    Rounds ordinal x := by
  unfold Rounds
  split_ifs with heven
  · exact ⟨hlow.le, hhigh.le⟩
  · exact ⟨hlow, hhigh⟩

theorem Rounds.pos (h : Rounds ordinal x) (hpos : 0 < ordinal) : 0 < x := by
  -- the least positive magnitude is that of the ordinal 1, and half of it is left out
  have hone : border 1 ≤ border ordinal := strictMono_border.monotone hpos
  have hborder : 0 < border 1 := by
    rw [border_succ 0]
    have hq := quarter_pos 0
    positivity
  exact hborder.trans_le (hone.trans h.le.1)

/-- An end rounds to the even one of the two magnitudes beside it. -/
theorem Rounds.even_of_border (h : Rounds ordinal x)
    (hx : x = border ordinal ∨ x = border (ordinal + 1)) : ordinal % 2 = 0 := by
  unfold Rounds at h
  split_ifs at h with heven
  · rwa [mantissa_mod_two] at heven
  · rcases hx with rfl | rfl
    · exact absurd h.1 (lt_irrefl _)
    · exact absurd h.2 (lt_irrefl _)

/-- **No real rounds to two magnitudes.** -/
theorem Rounds.unique (h : Rounds ordinal x) (h' : Rounds other x) : ordinal = other := by
  have hnot {a b : Nat} (ha : Rounds a x) (hb : Rounds b x) : ¬ a < b := by
    intro hlt
    have hborders : border (a + 1) ≤ border b := strictMono_border.monotone hlt
    have hx : x = border (a + 1) := le_antisymm ha.le.2 (hborders.trans hb.le.1)
    have hx' : x = border b := le_antisymm (ha.le.2.trans hborders) hb.le.1
    -- the magnitudes are neighbours that share an end, and one of them is odd
    have hnext : a + 1 = b := strictMono_border.injective (hx.symm.trans hx')
    have hevenA := ha.even_of_border (.inr hx)
    have hevenB := hb.even_of_border (.inl hx')
    omega
  exact le_antisymm (not_lt.mp (hnot h' h)) (not_lt.mp (hnot h h'))

/-! ## Intervals on a grid of decimals -/

/-- A power of a base as a quotient of two whole numbers, one of them 1. -/
theorem zpow_eq_div {b : Nat} (hb : b ≠ 0) (e : Int) :
    ((if 0 ≤ e then Nat.pow b e.toNat else 1 : Nat) : ℚ)
      / (if 0 ≤ e then 1 else Nat.pow b (-e).toNat : Nat) = (b : ℚ) ^ e := by
  have hb : (b : ℚ) ≠ 0 := by exact_mod_cast hb
  by_cases he : 0 ≤ e
  · obtain ⟨k, rfl⟩ := Int.eq_ofNat_of_zero_le he
    rw [if_pos he, if_pos he, Nat.cast_one, div_one, Int.toNat_natCast, zpow_natCast]
    exact Nat.cast_pow b k
  · obtain ⟨k, hk⟩ := Int.eq_ofNat_of_zero_le (show 0 ≤ -e by omega)
    have he' : e = -(k : Int) := by omega
    rw [if_neg he, if_neg he, hk, Int.toNat_natCast, he', zpow_neg, zpow_natCast, Nat.cast_one,
      one_div]
    exact congrArg _ (Nat.cast_pow b k)

theorem denominator_pos (ordinal : Nat) : 0 < (intervalOf ordinal).denominator := by
  unfold intervalOf
  dsimp only
  split_ifs
  · exact Nat.one_pos
  · exact Nat.pow_pos (by decide)

/-- The unit that the numbers of an interval are multiples of. -/
def unit (ordinal : Nat) : Nat :=
  if 0 ≤ exponent ordinal - 2 then Nat.pow 2 (exponent ordinal - 2).toNat else 1

theorem unit_div_denominator (ordinal : Nat) :
    (unit ordinal : ℚ) / (intervalOf ordinal).denominator = quarter ordinal :=
  zpow_eq_div (by decide) (exponent ordinal - 2)

/-- Multiples of the unit, as fractions. -/
theorem mul_unit_div (n ordinal : Nat) :
    ((n * unit ordinal : Nat) : ℚ) / (intervalOf ordinal).denominator = n * quarter ordinal := by
  rw [Nat.cast_mul, mul_div_assoc, unit_div_denominator]

/-- The numbers of an interval, as fractions. -/
theorem intervalOf_eq (h : 0 < ordinal) :
    ((intervalOf ordinal).low : ℚ) / (intervalOf ordinal).denominator = border ordinal ∧
      ((intervalOf ordinal).value : ℚ) / (intervalOf ordinal).denominator = magnitude ordinal ∧
      ((intervalOf ordinal).high : ℚ) / (intervalOf ordinal).denominator
        = border (ordinal + 1) := by
  have hm := mantissa_pos h
  have hbelow : below ordinal ≤ 4 * mantissa ordinal := by
    rcases below_cases ordinal with hb | ⟨hb, -⟩
    · omega
    · omega
  refine ⟨(mul_unit_div (4 * mantissa ordinal - below ordinal) ordinal).trans ?_,
    (mul_unit_div (4 * mantissa ordinal) ordinal).trans ?_,
    (mul_unit_div (4 * mantissa ordinal + 2) ordinal).trans ?_⟩
  · rw [border, Nat.cast_sub hbelow, Nat.cast_mul, Nat.cast_ofNat]
  · rw [magnitude, Nat.cast_mul, Nat.cast_ofNat]
  · rw [border_succ, Nat.cast_add, Nat.cast_mul, Nat.cast_ofNat, Nat.cast_ofNat]

/-! ## Grids of decimals -/

/-- What both sides of a comparison on a grid have been multiplied by. -/
theorem Grid.ofStep_eq {denominator : Nat} (hpos : 0 < denominator) (step : Int) :
    let g := Grid.ofStep denominator step
    0 < g.scale ∧ 0 < g.gridUnit ∧ (g.gridUnit : ℚ) = 10 ^ step * (denominator * g.scale) := by
  intro g
  have hpow := zpow_eq_div (b := 10) (by decide) step
  by_cases hstep : 0 ≤ step
  · have hg : g = ⟨denominator * Nat.pow 10 step.toNat, 1⟩ := if_pos hstep
    rw [if_pos hstep, if_pos hstep, Nat.cast_one, div_one] at hpow
    rw [hg]
    refine ⟨Nat.one_pos, Nat.mul_pos hpos (Nat.pow_pos (by decide)), ?_⟩
    show ((denominator * Nat.pow 10 step.toNat : Nat) : ℚ) = 10 ^ step * (denominator * (1 : Nat))
    rw [Nat.cast_mul, hpow]
    push_cast
    ring
  · have hg : g = ⟨denominator, Nat.pow 10 (-step).toNat⟩ := if_neg hstep
    have hten : (0 : ℚ) < (Nat.pow 10 (-step).toNat : Nat) :=
      Nat.cast_pos.mpr (Nat.pow_pos (by decide))
    rw [if_neg hstep, if_neg hstep, Nat.cast_one, one_div] at hpow
    rw [hg]
    refine ⟨Nat.pow_pos (by decide), hpos, ?_⟩
    show (denominator : ℚ) = 10 ^ step * (denominator * (Nat.pow 10 (-step).toNat : Nat))
    rw [← Nat.cast_ofNat (R := ℚ), ← hpow]
    field_simp

/-- A grid of decimals around the interval of a magnitude. -/
def gridAt (ordinal : Nat) (step : Int) : Grid :=
  Grid.ofStep (intervalOf ordinal).denominator step

/-- The factor that makes whole numbers of the numbers of an interval and of a grid. -/
def weight (ordinal : Nat) (step : Int) : ℚ :=
  (intervalOf ordinal).denominator * (gridAt ordinal step).scale

theorem weight_pos (ordinal : Nat) (step : Int) : 0 < weight ordinal step := by
  have hscale := (Grid.ofStep_eq (denominator_pos ordinal) step).1
  have hdenominator := denominator_pos ordinal
  exact mul_pos (by exact_mod_cast hdenominator) (by exact_mod_cast hscale)

/-- A point of a grid, made a whole number. -/
theorem gridUnit_eq (ordinal c : Nat) (step : Int) :
    ((c * (gridAt ordinal step).gridUnit : Nat) : ℚ) = c * 10 ^ step * weight ordinal step := by
  have hunit := (Grid.ofStep_eq (denominator_pos ordinal) step).2.2
  rw [Nat.cast_mul, mul_assoc]
  exact congrArg _ hunit

/-- A number of an interval, made a whole number. -/
theorem scale_eq (ordinal n : Nat) (step : Int) :
    ((n * (gridAt ordinal step).scale : Nat) : ℚ)
      = n / (intervalOf ordinal).denominator * weight ordinal step := by
  have hdenominator : ((intervalOf ordinal).denominator : ℚ) ≠ 0 := by
    exact_mod_cast (denominator_pos ordinal).ne'
  rw [Nat.cast_mul, weight]
  field_simp

/-- **A grid point lies in an interval if it rounds to its magnitude.** -/
theorem hits_iff (h : 0 < ordinal) (step : Int) (c : Nat) :
    (gridAt ordinal step).hits (intervalOf ordinal) c = true ↔ Rounds ordinal (c * 10 ^ step) := by
  have hweight := weight_pos ordinal step
  obtain ⟨hlow, -, hhigh⟩ := intervalOf_eq h
  have hpoint := gridUnit_eq ordinal c step
  have hleft := scale_eq ordinal (intervalOf ordinal).low step
  have hright := scale_eq ordinal (intervalOf ordinal).high step
  rw [hlow] at hleft
  rw [hhigh] at hright
  have hclosed : (intervalOf ordinal).closed = (mantissa ordinal % 2 == 0) := rfl
  unfold Grid.hits Rounds
  rw [hclosed]
  simp only [beq_iff_eq]
  split_ifs with heven
  · rw [Bool.and_eq_true, decide_eq_true_eq, decide_eq_true_eq, ← Nat.cast_le (α := ℚ),
      ← Nat.cast_le (α := ℚ), hpoint, hleft, hright, mul_le_mul_iff_left₀ hweight,
      mul_le_mul_iff_left₀ hweight]
  · rw [Bool.and_eq_true, decide_eq_true_eq, decide_eq_true_eq, ← Nat.cast_lt (α := ℚ),
      ← Nat.cast_lt (α := ℚ), hpoint, hleft, hright, mul_lt_mul_iff_left₀ hweight,
      mul_lt_mul_iff_left₀ hweight]

/-- The number of an interval lies between two neighbours on the grid. -/
theorem between_neighbours (h : 0 < ordinal) (step : Int) :
    let g := gridAt ordinal step
    let c := (intervalOf ordinal).value * g.scale / g.gridUnit
    c * 10 ^ step ≤ magnitude ordinal ∧ magnitude ordinal < (c + 1 : Nat) * 10 ^ step := by
  intro g c
  have hweight := weight_pos ordinal step
  have hunit : 0 < g.gridUnit := (Grid.ofStep_eq (denominator_pos ordinal) step).2.1
  have hvalue := scale_eq ordinal (intervalOf ordinal).value step
  rw [(intervalOf_eq h).2.1] at hvalue
  constructor
  · have hle : c * g.gridUnit ≤ (intervalOf ordinal).value * g.scale := Nat.div_mul_le_self _ _
    rw [← Nat.cast_le (α := ℚ), gridUnit_eq, hvalue] at hle
    exact le_of_mul_le_mul_right hle hweight
  · have hlt : (intervalOf ordinal).value * g.scale < (c + 1) * g.gridUnit :=
      Nat.lt_mul_of_div_lt (Nat.lt_succ_self c) hunit
    rw [← Nat.cast_lt (α := ℚ), gridUnit_eq, hvalue] at hlt
    exact lt_of_mul_lt_mul_right hlt hweight.le

/-- What is found on a grid lies in the interval. -/
theorem Grid.hits_of_best? {g : Grid} {i : Interval} {tie : TieRule} {c : Nat}
    (h : g.best? i tie = some c) : g.hits i c = true := by
  unfold Grid.best? at h
  set b := i.value * g.scale / g.gridUnit
  cases hb : g.hits i b with
  | false =>
      cases hnext : g.hits i (b + 1) with
      | false => simp [hb, hnext] at h
      | true =>
          simp only [hb, hnext, Option.some.injEq] at h
          rwa [← h]
  | true =>
      cases hnext : g.hits i (b + 1) with
      | false =>
          simp only [hb, hnext, Option.some.injEq] at h
          rwa [← h]
      | true =>
          simp only [hb, hnext, Option.some.injEq] at h
          have hneighbour : c = b ∨ c = b + 1 := by
            unfold Grid.nearer at h
            dsimp only at h
            split_ifs at h
            · omega
            · omega
            · cases tie with
              | up => exact .inr h.symm
              | even =>
                  dsimp only at h
                  omega
          rcases hneighbour with rfl | rfl
          · exact hb
          · exact hnext

theorem Grid.best?_isSome {g : Grid} {i : Interval} {tie : TieRule}
    (h : g.hits i (i.value * g.scale / g.gridUnit) = true ∨
      g.hits i (i.value * g.scale / g.gridUnit + 1) = true) : (g.best? i tie).isSome := by
  unfold Grid.best?
  rcases h with h | h
  · cases hnext : g.hits i (i.value * g.scale / g.gridUnit + 1) with
    | false => simp [h, hnext]
    | true => simp [h, hnext]
  · cases hb : g.hits i (i.value * g.scale / g.gridUnit) with
    | false => simp [h, hb]
    | true => simp [h, hb]

/-! ## Seventeen digits suffice -/

theorem lt_pow_digitCount (n : Nat) : n < 10 ^ digitCount n := by
  have hpos : 0 < digitCount n := Nat.length_toDigits_pos
  exact (Nat.length_toDigits_le_iff (by decide) hpos).mp le_rfl

theorem pow_digitCount_le {n : Nat} (h : n ≠ 0) : 10 ^ (digitCount n - 1) ≤ n := by
  by_contra hlt
  have hpos : 0 < digitCount n := Nat.length_toDigits_pos
  by_cases hone : digitCount n = 1
  · rw [hone] at hlt
    simp only [Nat.sub_self, pow_zero] at hlt
    omega
  · have hle : digitCount n ≤ digitCount n - 1 :=
      (Nat.length_toDigits_le_iff (by decide) (by omega)).mpr (Nat.not_le.mp hlt)
    omega

/-- The point of a fraction does not stand too far to the right. -/
theorem pow_pointOf_le {n d : Nat} (hn : 0 < n) (hd : 0 < d) :
    (10 : ℚ) ^ (pointOf n d - 1) ≤ (n : ℚ) / d := by
  have hdq : (0 : ℚ) < d := by exact_mod_cast hd
  unfold pointOf
  split_ifs with hle
  · have hquotient : n / d ≠ 0 := (Nat.div_pos hle hd).ne'
    have hpos : 0 < digitCount (n / d) := Nat.length_toDigits_pos
    have hexp : (digitCount (n / d) : Int) - 1 = (digitCount (n / d) - 1 : Nat) := by omega
    have hmul : 10 ^ (digitCount (n / d) - 1) * d ≤ n :=
      (Nat.mul_le_mul_right d (pow_digitCount_le hquotient)).trans (Nat.div_mul_le_self n d)
    rw [hexp, zpow_natCast, le_div_iff₀ hdq]
    exact_mod_cast hmul
  · have hexp : (1 - (digitCount ((d - 1) / n) : Int)) - 1 = -(digitCount ((d - 1) / n) : Int) := by
      omega
    have hlt : d - 1 < 10 ^ digitCount ((d - 1) / n) * n :=
      (Nat.div_lt_iff_lt_mul hn).mp (lt_pow_digitCount _)
    have hmul : d ≤ n * 10 ^ digitCount ((d - 1) / n) := by
      rw [Nat.mul_comm]
      omega
    rw [hexp, zpow_neg, zpow_natCast, inv_le_iff_one_le_mul₀ (by positivity), div_mul_eq_mul_div,
      one_le_div hdq]
    exact_mod_cast hmul

/-- A step of the grid with seventeen digits is shorter than the interval: a mantissa has 53 bits,
and twice the largest one is less than the sixteenth power of ten. -/
theorem step_lt_width (ordinal : Nat) :
    magnitude ordinal < 10 ^ 16 * (border (ordinal + 1) - border ordinal) := by
  have hq := quarter_pos ordinal
  have hwidth : border (ordinal + 1) - border ordinal = (below ordinal + 2) * quarter ordinal := by
    rw [border_succ, border]
    ring
  have hcoefficient : (4 : ℚ) * mantissa ordinal < 10 ^ 16 * (below ordinal + 2) := by
    have hm := mantissa_lt ordinal
    rcases below_cases ordinal with hb | ⟨hb, hm⟩
    · rw [hb]
      exact_mod_cast (by rw [fractionCount_eq] at hm; omega :
        4 * mantissa ordinal < 10 ^ 16 * (2 + 2))
    · rw [hb, hm, fractionCount_eq]
      norm_num
  rw [hwidth, magnitude, ← mul_assoc]
  exact mul_lt_mul_of_pos_right hcoefficient hq

/-- Where the decimal point of a magnitude stands. -/
def pointAt (ordinal : Nat) : Int :=
  pointOf (intervalOf ordinal).value (intervalOf ordinal).denominator

/-- **One of the neighbours with seventeen digits lies in the interval.** -/
theorem best?_seventeen (h : 0 < ordinal) (tie : TieRule) :
    ((gridAt ordinal (pointAt ordinal - 17)).best? (intervalOf ordinal) tie).isSome := by
  set i := intervalOf ordinal
  set step := pointAt ordinal - 17 with hstep
  obtain ⟨hle, hlt⟩ := between_neighbours h step
  set c := i.value * (gridAt ordinal step).scale / (gridAt ordinal step).gridUnit
  apply Grid.best?_isSome
  rw [hits_iff h, hits_iff h]
  by_contra hnone
  obtain ⟨hlow, hhigh⟩ := not_or.mp hnone
  -- both neighbours are outside, so the interval fits between them
  have houtside : c * 10 ^ step ≤ border ordinal :=
    not_lt.mp fun hin => hlow (rounds_of_lt hin (hle.trans_lt (magnitude_lt_border ordinal)))
  have houtside' : border (ordinal + 1) ≤ (c + 1 : Nat) * 10 ^ step :=
    not_lt.mp fun hin => hhigh (rounds_of_lt ((border_lt_magnitude ordinal).trans hlt) hin)
  have hvalue : 0 < i.value := by
    have hmagnitude := magnitude_pos h
    rw [← (intervalOf_eq h).2.1] at hmagnitude
    by_contra hzero
    rw [Nat.eq_zero_of_not_pos hzero, Nat.cast_zero, zero_div] at hmagnitude
    exact lt_irrefl _ hmagnitude
  have hpoint : (10 : ℚ) ^ (pointAt ordinal - 1) ≤ _ :=
    pow_pointOf_le hvalue (denominator_pos ordinal)
  rw [(intervalOf_eq h).2.1] at hpoint
  have hpow : (10 : ℚ) ^ (pointAt ordinal - 1) = 10 ^ 16 * 10 ^ step := by
    rw [← zpow_natCast, ← zpow_add₀ (by norm_num), hstep]
    congr 1
    push_cast
    ring
  have hwidth := step_lt_width ordinal
  rw [hpow] at hpoint
  push_cast at houtside'
  linarith only [houtside, houtside', hpoint, hwidth]

/-- **The shortest decimal of a magnitude rounds to it.** -/
theorem shortest_rounds (h : 0 < ordinal) (tie : TieRule) :
    ∃ c step, shortest tie ordinal = decimalOf c step ∧ Rounds ordinal (c * 10 ^ step) := by
  let onGrid (count : Nat) : Option Decimal :=
    ((gridAt ordinal (pointAt ordinal - count)).best? (intervalOf ordinal) tie).map
      (decimalOf · (pointAt ordinal - count))
  have hshortest : shortest tie ordinal = ((List.range' 1 17).findSome? onGrid).getD _ := rfl
  cases hfound : (List.range' 1 17).findSome? onGrid with
  | none =>
      have hnone := Option.map_eq_none_iff.mp
        (List.findSome?_eq_none_iff.mp hfound 17 (by decide))
      have hsome := best?_seventeen h tie
      rw [Nat.cast_ofNat] at hnone
      rw [hnone] at hsome
      cases hsome
  | some d =>
      obtain ⟨count, -, hcount⟩ := List.exists_of_findSome?_eq_some hfound
      obtain ⟨c, hc, rfl⟩ := Option.map_eq_some_iff.mp hcount
      rw [hshortest, hfound]
      exact ⟨c, pointAt ordinal - count, rfl, (hits_iff h _ c).mp (Grid.hits_of_best? hc)⟩

end SheetInspector.Number
