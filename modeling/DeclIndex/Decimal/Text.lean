import DeclIndex.Decimal.Shortest

/-!
# The text of a binary64 number

Numbers from 0.0001 up to 10^16 are written positionally and show at least one decimal; the others are
written with an exponent of at least two digits and its sign.
-/

namespace DeclIndex.Decimal

/-- How numbers that are not finite are written. -/
structure Special where
  nan : String
  infinity : String

/-- Digits with a point after the first `point` of them, or zeros where there are none. -/
def positional (digits : List Char) (point : Int) : List Char :=
  if point ≤ 0 then '0' :: '.' :: List.replicate (-point).toNat '0' ++ digits
  else
    let whole := point.toNat
    if digits.length ≤ whole then
      digits ++ List.replicate (whole - digits.length) '0' ++ ['.', '0']
    else digits.take whole ++ '.' :: digits.drop whole

/-- Digits with a point after the first of them and an exponent. -/
def exponential (digits : List Char) (exponent : Int) : List Char :=
  let size := Nat.toDigits 10 exponent.natAbs
  let padded := if size.length < 2 then '0' :: size else size
  let sign := if exponent < 0 then '-' else '+'
  digits.take 1 ++ (if digits.length = 1 then [] else '.' :: digits.drop 1) ++ 'e' :: sign :: padded

def magnitudeText (bits : UInt64) : List Char :=
  if bits.toNat % Nat.pow 2 63 = 0 then ['0', '.', '0']
  else
    let number := shortest (Binary.ofBits bits)
    let digits := Nat.toDigits 10 number.digits
    let point := number.exponent + digits.length
    if -4 < point && point ≤ 16 then positional digits point else exponential digits (point - 1)

/-- The text of a number. -/
def text (special : Special) (x : Float) : String :=
  if x.isNaN then special.nan
  else
    let sign := if x.toBits.toNat / Nat.pow 2 63 = 1 then "-" else ""
    if x.isInf then sign ++ special.infinity else sign ++ String.ofList (magnitudeText x.toBits)

/-- The whole part of a finite number. -/
def truncate (x : Float) : Int :=
  let ratio := (Binary.ofBits x.toBits).toRatio
  let whole : Int := (ratio.top / ratio.bottom : Nat)
  if x.toBits.toNat / Nat.pow 2 63 = 1 then -whole else whole

/-- Whether a number is finite and has no fraction. -/
def isWhole (x : Float) : Bool :=
  let ratio := (Binary.ofBits x.toBits).toRatio
  !x.isNaN && !x.isInf && ratio.top % ratio.bottom == 0

/-- The binary64 number nearest to `digits * 10 ^ exponent`. Exponents far out of range are cut short. -/
def nearest (isNegative : Bool) (digits : Nat) (exponent : Int) : Float :=
  let size : Int := (Nat.toDigits 10 digits).length + exponent
  let x :=
    if digits = 0 || size < -400 then 0.0
    else if 400 < size then Float.ofScientific 1 false 400
    else if 0 ≤ exponent then Float.ofScientific digits false exponent.toNat
    else Float.ofScientific digits true (-exponent).toNat
  if isNegative then -x else x

end DeclIndex.Decimal
