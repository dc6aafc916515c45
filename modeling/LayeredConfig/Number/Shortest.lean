import LayeredConfig.Number.Binary

/-!
# The fewest digits that read back

A value of a binary format stands for the interval of the reals that round to it. Its shortest
decimal is the decimal in that interval with the fewest digits, and among those the one nearest
to the value. The search walks through coarser to finer decimal grids; on each it tests the two
neighbours of the value, in exact arithmetic.
-/

namespace LayeredConfig.Number

/-- Which of two equally near decimals is taken. -/
inductive Tie where
  | upward
  | toEven
deriving DecidableEq, Repr

/-- A finite value other than zero, `significand · 2 ^ exponent`. In `narrow` values the
distance to the value below is half the distance to the value above. -/
structure Significant where
  significand : Nat
  exponent : Int
  narrow : Bool

namespace Significant

/-- The interval of a value, in quarters of its unit, and whether its ends belong to it. -/
def lowEnd (x : Significant) : Nat := 4 * x.significand - (if x.narrow then 1 else 2)

def highEnd (x : Significant) : Nat := 4 * x.significand + 2

def closed (x : Significant) : Bool := x.significand % 2 = 0

/-- Factors that bring a point of the grid `10 ^ j` and a quarter unit to a common measure. -/
def gridFactor (x : Significant) (j : Int) : Nat :=
  Nat.pow 10 j.toNat * Nat.pow 2 (2 - x.exponent).toNat

def unitFactor (x : Significant) (j : Int) : Nat :=
  Nat.pow 10 (-j).toNat * Nat.pow 2 (x.exponent - 2).toNat

/-- Whether the grid point `c · 10 ^ j` lies in the interval. -/
def readsBack (x : Significant) (j : Int) (c : Nat) : Bool :=
  let point := c * x.gridFactor j
  let low := x.lowEnd * x.unitFactor j
  let high := x.highEnd * x.unitFactor j
  if x.closed then low ≤ point && point ≤ high else low < point && point < high

/-- The grid point taken on the grid `10 ^ j`, if one lies in the interval. -/
def onGrid? (x : Significant) (tie : Tie) (j : Int) : Option Nat :=
  let value := 4 * x.significand * x.unitFactor j
  let below := value / x.gridFactor j
  let above := below + 1
  match x.readsBack j below, x.readsBack j above with
  | true, false => some below
  | false, true => some above
  | false, false => none
  | true, true =>
    match compare (2 * value) ((below + above) * x.gridFactor j) with
    | .lt => some below
    | .gt => some above
    | .eq => if tie = .toEven ∧ below % 2 = 0 then some below else some above

/-- The least `k` with `value < 10 ^ k`: an estimate from the binary length, raised by the number
of powers of ten from it on that the value reaches. -/
def decimalLength (x : Significant) : Int :=
  let guess : Int := ((x.significand.log2 + x.exponent) * 30103) / 100000 - 1
  let reached (k : Int) : Bool := x.gridFactor k ≤ 4 * x.significand * x.unitFactor k
  guess + ((List.range 5).filter fun (i : Nat) => reached (guess + i)).length

/-- Moves the zeros at the end of the digits into the exponent. -/
def dropZeros : Nat → Decimal → Decimal
  | 0, d => d
  | fuel + 1, d =>
    if d.digits ≠ 0 ∧ d.digits % 10 = 0 then dropZeros fuel ⟨d.digits / 10, d.exponent + 1⟩ else d

/-- The shortest decimal. Seventeen digits suffice for every format of this library. -/
def shortest (x : Significant) (tie : Tie) : Decimal :=
  let k := x.decimalLength
  let found := (List.range 17).findSome? fun (i : Nat) =>
    (x.onGrid? tie (k - (i + 1))).map fun c => Decimal.mk c (k - (i + 1))
  let exact : Decimal :=
    ⟨x.significand * Nat.pow 2 x.exponent.toNat * Nat.pow 5 (-x.exponent).toNat, min 0 x.exponent⟩
  let d := found.getD exact
  dropZeros (decimalDigits d.digits).length d

end Significant

end LayeredConfig.Number
