import SheetInspector.Number.Rounding

set_option autoImplicit false

/-! # Shortest decimals

The decimal with the fewest digits that reads back as a given number, and of those the one
nearest to it. The number is the fraction `mantissa * 2 ^ exponent`; the reals that round to
it form an interval around it, which includes its ends when the mantissa is even. For one
digit, two digits and so on, the two neighbours of the number on that decimal grid are tried;
the first grid with a neighbour inside the interval gives the answer. Seventeen digits always
suffice.
-/

namespace SheetInspector

/-- The decimal `0.d₁d₂d₃… * 10 ^ point`. -/
structure Decimal where
  /-- The digits, none of them after the last one that is not zero. -/
  digits : List Char
  /-- Where the decimal point stands: after that many digits. -/
  point : Int
  deriving DecidableEq, Repr

/-- Which of two equally near decimals is taken. -/
inductive TieRule where
  /-- The larger one. -/
  | up
  /-- The one whose last digit is even. -/
  | even
  deriving DecidableEq, Repr

namespace Number

/-- A positive number between the ends of the interval that rounds to it, all of them
multiples of the same unit `1 / denominator`. -/
structure Interval where
  low : Nat
  value : Nat
  high : Nat
  denominator : Nat
  /-- Whether the ends themselves round to the number. -/
  closed : Bool
  deriving DecidableEq, Repr

/-- The interval of the reals that round to the magnitude with a positive ordinal. Its lower
end is half as far away when the mantissa is the least one of its range. -/
def intervalOf (ordinal : Nat) : Interval :=
  let m := mantissa ordinal
  let e := exponent ordinal - 2
  let below := if m = fractionCount ∧ 2 * fractionCount ≤ ordinal then 1 else 2
  let unit := if 0 ≤ e then Nat.pow 2 e.toNat else 1
  { low := (4 * m - below) * unit
    value := 4 * m * unit
    high := (4 * m + 2) * unit
    denominator := if 0 ≤ e then 1 else Nat.pow 2 (-e).toNat
    closed := m % 2 == 0 }

/-- The number `point` with `10 ^ (point - 1) ≤ n / d < 10 ^ point`, for positive `n` and
`d`. -/
def pointOf (n d : Nat) : Int :=
  if d ≤ n then digitCount (n / d)
  else 1 - digitCount ((d - 1) / n)

/-- A grid of decimals `c * 10 ^ step`, seen from an interval: both are brought to whole
numbers, `c * gridUnit` for a grid point and `x * scale` for a number `x` of the interval. -/
structure Grid where
  gridUnit : Nat
  scale : Nat
  deriving DecidableEq, Repr

/-- The grid of the multiples of `10 ^ step`. -/
def Grid.ofStep (denominator : Nat) (step : Int) : Grid :=
  if 0 ≤ step then ⟨denominator * Nat.pow 10 step.toNat, 1⟩
  else ⟨denominator, Nat.pow 10 (-step).toNat⟩

/-- Whether the grid point `c` lies in the interval. -/
def Grid.hits (g : Grid) (i : Interval) (c : Nat) : Bool :=
  if i.closed then i.low * g.scale ≤ c * g.gridUnit && c * g.gridUnit ≤ i.high * g.scale
  else i.low * g.scale < c * g.gridUnit && c * g.gridUnit < i.high * g.scale

/-- The nearer of the two neighbours of the interval's number on the grid, `c` and `c + 1`. -/
def Grid.nearer (g : Grid) (i : Interval) (tie : TieRule) (c : Nat) : Nat :=
  let twice := 2 * i.value * g.scale
  let middle := (2 * c + 1) * g.gridUnit
  if twice < middle then c
  else if middle < twice then c + 1
  else match tie with
    | .up => c + 1
    | .even => c + c % 2

/-- The grid point in the interval that is nearest to its number, if there is one. -/
def Grid.best? (g : Grid) (i : Interval) (tie : TieRule) : Option Nat :=
  let c := i.value * g.scale / g.gridUnit
  match g.hits i c, g.hits i (c + 1) with
  | true, true => some (g.nearer i tie c)
  | true, false => some c
  | false, true => some (c + 1)
  | false, false => none

/-- The decimal `c * 10 ^ step`. -/
def decimalOf (c : Nat) (step : Int) : Decimal :=
  let digits := Nat.toDigits 10 c
  { digits := (digits.reverse.dropWhile (· == '0')).reverse
    point := digits.length + step }

/-- The shortest decimal that reads back as the magnitude with a positive ordinal. -/
def shortest (tie : TieRule) (ordinal : Nat) : Decimal :=
  let i := intervalOf ordinal
  let point := pointOf i.value i.denominator
  let onGrid (count : Nat) : Option Decimal :=
    let step := point - count
    ((Grid.ofStep i.denominator step).best? i tie).map (decimalOf · step)
  ((List.range' 1 17).findSome? onGrid).getD (decimalOf (i.value / i.denominator) 0)

end Number

end SheetInspector
