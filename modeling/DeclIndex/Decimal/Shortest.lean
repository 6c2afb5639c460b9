/-!
# The shortest decimal of a binary number

The decimal with the fewest digits that reads back as a given binary64 number, and of those the nearest one. All
arithmetic is exact.
-/

namespace DeclIndex.Decimal

/-- A number `mantissa * 2 ^ exponent`. -/
structure Binary where
  mantissa : Nat
  exponent : Int

/-- The magnitude that the bits of a finite binary64 number stand for. -/
def Binary.ofBits (bits : UInt64) : Binary :=
  let exponent : Nat := bits.toNat / Nat.pow 2 52 % 2048
  let fraction : Nat := bits.toNat % Nat.pow 2 52
  if exponent = 0 then ⟨fraction, -1074⟩ else ⟨fraction + Nat.pow 2 52, exponent - 1075⟩

/-- A number `digits * 10 ^ exponent`. -/
structure Scientific where
  digits : Nat
  exponent : Int
deriving DecidableEq

/-- A quotient of natural numbers. -/
structure Ratio where
  top : Nat
  bottom : Nat

def Ratio.shift (ratio : Ratio) (power : Int) : Ratio :=
  if 0 ≤ power then ⟨ratio.top * Nat.pow 10 power.toNat, ratio.bottom⟩
  else ⟨ratio.top, ratio.bottom * Nat.pow 10 (-power).toNat⟩

/-- A binary number as a ratio. -/
def Binary.toRatio (number : Binary) : Ratio :=
  if 0 ≤ number.exponent then ⟨number.mantissa * Nat.pow 2 number.exponent.toNat, 1⟩
  else ⟨number.mantissa, Nat.pow 2 (-number.exponent).toNat⟩

/-- A binary number, the ends of the interval of reals that round to it, all over one bottom, and whether the ends
belong to the interval. -/
structure Interval where
  low : Nat
  middle : Nat
  high : Nat
  bottom : Nat
  closed : Bool

/-- The interval of a binary number. Below a power of two the numbers lie twice as close. -/
def Interval.of (number : Binary) : Interval :=
  let ratio := number.toRatio
  let unit := ratio.top / number.mantissa
  let below := if number.mantissa = Nat.pow 2 52 && number.exponent > -1074 then unit else 2 * unit
  { low := 4 * ratio.top - below
    middle := 4 * ratio.top
    high := 4 * ratio.top + 2 * unit
    bottom := 4 * ratio.bottom
    closed := number.mantissa % 2 == 0 }

/-- Whether a whole number lies in an interval. -/
def Interval.contains (interval : Interval) (n : Nat) : Bool :=
  let place := n * interval.bottom
  if interval.closed then interval.low ≤ place && place ≤ interval.high
  else interval.low < place && place < interval.high

/-- An interval times a power of ten. -/
def Interval.shift (interval : Interval) (power : Int) : Interval :=
  if 0 ≤ power then
    let factor := Nat.pow 10 power.toNat
    { interval with
      low := interval.low * factor, middle := interval.middle * factor, high := interval.high * factor }
  else { interval with bottom := interval.bottom * Nat.pow 10 (-power).toNat }

/-- The whole number in an interval that is nearest to its middle; of two, the even one. -/
def Interval.nearest? (interval : Interval) : Option Nat :=
  let n := interval.middle / interval.bottom
  match interval.contains n, interval.contains (n + 1) with
  | false, false => none
  | true, false => some n
  | false, true => some (n + 1)
  | true, true =>
    let left := 2 * (interval.middle % interval.bottom)
    if left < interval.bottom then some n
    else if interval.bottom < left then some (n + 1)
    else if n % 2 = 0 then some n else some (n + 1)

/-- The power of ten of the first digit of a ratio below one, for a ratio with at most `fuel` zeros. -/
def leadingZeros (ratio : Ratio) : Nat → Nat
  | 0 => 0
  | fuel + 1 =>
    if ratio.bottom ≤ ratio.top then 0 else leadingZeros (ratio.shift 1) fuel + 1

/-- The power of ten of the first digit of a positive ratio. -/
def magnitude (ratio : Ratio) : Int :=
  let whole := ratio.top / ratio.bottom
  if whole = 0 then -(leadingZeros ratio 400 : Int) else (Nat.toDigits 10 whole).length - 1

/-- A number without zeros at the end of its digits. -/
def Scientific.strip (number : Scientific) : Nat → Scientific
  | 0 => number
  | fuel + 1 =>
    if number.digits % 10 = 0 then Scientific.strip ⟨number.digits / 10, number.exponent + 1⟩ fuel
    else number

/-- The shortest decimal of a positive binary number. Seventeen digits are always enough. -/
def shortest (number : Binary) : Scientific :=
  let interval := Interval.of number
  let first := magnitude number.toRatio
  let found := (List.range 17).findSome? fun (more : Nat) =>
    let exponent := first - (more : Int)
    (interval.shift (-exponent)).nearest?.map fun digits => Scientific.mk digits exponent
  (found.getD ⟨0, 0⟩).strip 20

end DeclIndex.Decimal
