/-!
The shortest decimal that reads back as a given binary number.

A binary number stands for every real number nearer to it than to its neighbours. Of the decimals
in that interval, those on the coarsest grid `10 ^ g` have the fewest digits, and if the grid has a
point in the interval then one of the two grid points around the number is in it.
-/

namespace TreeSchema.Decimal

/-- The positive number `digits * 10 ^ exponent`. -/
structure Numeral where
  digits : Nat
  exponent : Int
  deriving DecidableEq, Repr

/-- An interval of positive numbers around `middle / unit`, from `low / unit` to `high / unit`. -/
structure Interval where
  low : Nat
  middle : Nat
  high : Nat
  unit : Nat
  closed : Bool

/-- Which of two neighbouring decimals stands for a number that is halfway between them. -/
inductive Tie where
  | toEven
  | upward
  deriving DecidableEq, Repr

/-- Whether the tie goes to the lower neighbour, given by its digits. -/
def Tie.below (tie : Tie) (digits : Nat) : Bool :=
  match tie with
  | toEven => digits % 2 == 0
  | upward => false

/-- The least mantissa of a number at full precision. -/
def leastMantissa : Nat := 0x10000000000000

/-- The numbers that round to `mantissa * 2 ^ exponent`. Below a power of two the neighbour is
half as far away, except at the bottom of the range. -/
def Interval.ofBinary (mantissa : Nat) (exponent : Int) : Interval :=
  let below := if mantissa = leastMantissa ∧ exponent > -1074 then 1 else 2
  let scale := Nat.pow 2 (exponent - 2).toNat
  { low := (4 * mantissa - below) * scale
    middle := 4 * mantissa * scale
    high := (4 * mantissa + 2) * scale
    unit := Nat.pow 2 (2 - exponent).toNat
    closed := mantissa % 2 == 0 }

/-- The interval measured in units of `10 ^ grid`. -/
def Interval.scaled (interval : Interval) (grid : Int) : Interval :=
  let up := Nat.pow 10 (-grid).toNat
  { low := interval.low * up
    middle := interval.middle * up
    high := interval.high * up
    unit := interval.unit * Nat.pow 10 grid.toNat
    closed := interval.closed }

def Interval.contains (interval : Interval) (point : Nat) : Bool :=
  let p := point * interval.unit
  if interval.closed then interval.low ≤ p && p ≤ interval.high
  else interval.low < p && p < interval.high

/-- The whole number of the interval next to its middle. -/
def Interval.nearest? (interval : Interval) (tie : Tie) : Option Nat :=
  let below := interval.middle / interval.unit
  let above := below + 1
  let downward := interval.middle - below * interval.unit
  let upward := above * interval.unit - interval.middle
  match interval.contains below, interval.contains above with
  | true, true =>
    if downward < upward || (downward = upward && tie.below below) then some below else some above
  | true, false => some below
  | false, true => some above
  | false, false => none

/-- Looks for a decimal on `grid` and then on `fuel` finer grids. -/
def Interval.search (interval : Interval) (tie : Tie) : Nat → Int → Numeral
  | 0, grid => ⟨(interval.scaled grid).middle / (interval.scaled grid).unit, grid⟩
  | fuel + 1, grid =>
    match (interval.scaled grid).nearest? tie with
    | some digits => ⟨digits, grid⟩
    | none => interval.search tie fuel (grid - 1)

/-- The shortest decimal that rounds to `mantissa * 2 ^ exponent`. Seventeen digits always do, and
the first grid is coarser than the number is large. -/
def shortest (tie : Tie) (mantissa : Nat) (exponent : Int) : Numeral :=
  let bits : Int := mantissa.log2 + 1 + exponent
  (Interval.ofBinary mantissa exponent).search tie 22 (bits * 30103 / 100000 + 2)

end TreeSchema.Decimal
