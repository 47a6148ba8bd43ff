import AccessorSchema.Decimal.Power

/-!
# The shortest decimal of a binary fraction

A binary floating-point number is `m · 2^q`, and every real number closer to it than to its
neighbours reads back as the same number. **`shortestDecimal`** gives the decimal with the fewest
digits among those, and of two such decimals the nearer one.

* `RoundingInterval` — the reals that read back, as multiples of a common unit;
* **`decimalOnGrid?`** — a decimal that reads back and is a multiple of `10^k`.
-/

namespace AccessorSchema

/-- A number and the reals that are rounded to it, all given as multiples of `unit / scale`. The
ends belong to the interval if `closed` holds. -/
structure RoundingInterval where
  low : Nat
  value : Nat
  high : Nat
  /-- The unit is `unit / scale`. -/
  unit : Nat
  scale : Nat
  closed : Bool
deriving Repr

/-- The interval of `m · 2^q`. If `narrow` holds the neighbour below is only half as far away as
the one above. -/
def RoundingInterval.ofBinary (m : Nat) (q : Int) (narrow : Bool) : RoundingInterval where
  low := 4 * m - if narrow then 1 else 2
  value := 4 * m
  high := 4 * m + 2
  unit := powerOfTwo (q - 2).toNat
  scale := powerOfTwo (2 - q).toNat
  closed := m % 2 == 0

namespace RoundingInterval

/-- How a multiple `n · 10^k` compares with `v` units. -/
def compareWith (i : RoundingInterval) (n : Nat) (k : Int) (v : Nat) : Ordering :=
  compare (n * powerOfTen k.toNat * i.scale) (v * i.unit * powerOfTen (-k).toNat)

/-- Whether `n · 10^k` reads back as the number. -/
def contains (i : RoundingInterval) (n : Nat) (k : Int) : Bool :=
  let below := i.compareWith n k i.low
  let above := i.compareWith n k i.high
  (below == .gt || (i.closed && below == .eq)) && (above == .lt || (i.closed && above == .eq))

/-- The greatest `n` with `n · 10^k` not above the number. -/
def floorOn (i : RoundingInterval) (k : Int) : Nat :=
  (i.value * i.unit * powerOfTen (-k).toNat) / (powerOfTen k.toNat * i.scale)

end RoundingInterval

/-- The nearest multiple of `10^k` that reads back, if one of the number's two neighbours on that
grid does. -/
def decimalOnGrid? (i : RoundingInterval) (k : Int) : Option (Nat × Int) :=
  let n := i.floorOn k
  match i.contains n k, i.contains (n + 1) k with
  | false, false => none
  | true, false => some (n, k)
  | false, true => some (n + 1, k)
  | true, true =>
    match i.compareWith (2 * n + 1) k (2 * i.value) with
    | .gt => some (n, k)
    | .lt => some (n + 1, k)
    | .eq => some (if n % 2 == 0 then n else n + 1, k)

/-- The first decimal that reads back on the grids `10^k`, `10^(k-1)` and so on, `steps` of them. -/
def firstOnGrids (i : RoundingInterval) (k : Int) : Nat → Nat × Int
  | 0 => (i.floorOn k, k)
  | steps + 1 =>
    match decimalOnGrid? i k with
    | some d => d
    | none => firstOnGrids i (k - 1) steps

/-- The decimal `n · 10^k` with the fewest digits that reads back as `m · 2^q`. The grids are tried
from one above the leading digit downwards; seventeen digits are always enough. -/
def shortestDecimal (m : Nat) (q : Int) (narrow : Bool) : Nat × Int :=
  let i := RoundingInterval.ofBinary m q narrow
  let leading : Int := (Nat.log2 m + q) * 30103 / 100000
  firstOnGrids i (leading + 1) 20

end AccessorSchema
