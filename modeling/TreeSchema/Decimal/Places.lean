import TreeSchema.Decimal.Style

/-!
Writing binary numbers with as many digits as are asked for. What lies between two such numbers goes
to the nearer one, and a half to the even one.
-/

namespace TreeSchema.Decimal

/-- The quotient as a whole number; a half goes to the even neighbour. -/
def roundDiv (numerator denominator : Nat) : Nat :=
  let quotient := numerator / denominator
  let twice := 2 * (numerator % denominator)
  if twice < denominator || twice = denominator && quotient % 2 = 0 then quotient else quotient + 1

/-- A positive number as a fraction. -/
structure Fraction where
  numerator : Nat
  denominator : Nat

def Fraction.ofBinary (mantissa : Nat) (exponent : Int) : Fraction :=
  ⟨mantissa * Nat.pow 2 exponent.toNat, Nat.pow 2 (-exponent).toNat⟩

/-- The number times a power of ten. -/
def Fraction.shift (fraction : Fraction) (places : Int) : Fraction :=
  ⟨fraction.numerator * Nat.pow 10 places.toNat, fraction.denominator * Nat.pow 10 (-places).toNat⟩

def Fraction.round (fraction : Fraction) : Nat :=
  roundDiv fraction.numerator fraction.denominator

/-- The exponent of the power of ten that is at most the number, while the next one is above it. -/
def Fraction.magnitude (fraction : Fraction) : Int :=
  if fraction.denominator ≤ fraction.numerator then
    ((Nat.toDigits 10 (fraction.numerator / fraction.denominator)).length : Int) - 1
  else
    let least := (Nat.toDigits 10 (fraction.denominator / fraction.numerator)).length
    let isBelow := fraction.numerator * Nat.pow 10 (least - 1) < fraction.denominator
    if isBelow then -(least : Int) else 1 - (least : Int)

/-- Digits with a point before the last `places` of them. -/
def pointText (digits places : Nat) : List Char :=
  let text := Nat.toDigits 10 digits
  let text := List.replicate (places + 1 - text.length) '0' ++ text
  let whole := text.length - places
  if places = 0 then text else text.take whole ++ '.' :: text.drop whole

/-- The number with so many digits after the point. -/
def Fraction.fixedText (fraction : Fraction) (places : Nat) : List Char :=
  pointText (fraction.shift places).round places

/-- The number as a number below ten with so many digits after the point, and a power of ten. -/
def Fraction.scaled (fraction : Fraction) (places : Nat) : Nat × Int :=
  let exponent := fraction.magnitude
  let digits := (fraction.shift (places - exponent)).round
  if digits = Nat.pow 10 (places + 1) then (Nat.pow 10 places, exponent + 1) else (digits, exponent)

/-- An exponent with its sign and at least two digits. -/
def exponentSuffix (exponent : Int) : List Char :=
  let digits := Nat.toDigits 10 exponent.natAbs
  'e' :: (if exponent < 0 then '-' else '+') :: List.replicate (2 - digits.length) '0' ++ digits

def Fraction.scientificText (fraction : Fraction) (places : Nat) : List Char :=
  let (digits, exponent) := fraction.scaled places
  pointText digits places ++ exponentSuffix exponent

/-- Takes away zeros at the end of digits after a point, and then the point. -/
def trimZeros (text : List Char) : List Char :=
  if text.contains '.' then
    let kept := text.reverse.dropWhile (· == '0')
    (if kept.head? = some '.' then kept.tail else kept).reverse
  else text

/-- The number with so many digits in all, with an exponent only where it is very small or has more
digits before its point. -/
def Fraction.generalText (fraction : Fraction) (digits : Nat) (keepsZeros : Bool) : List Char :=
  let digits := max digits 1
  let (scaled, exponent) := fraction.scaled (digits - 1)
  let trim (text : List Char) : List Char := if keepsZeros then text else trimZeros text
  if -4 ≤ exponent && exponent < digits then
    trim (fraction.fixedText ((digits : Int) - 1 - exponent).toNat)
  else trim (pointText scaled (digits - 1)) ++ exponentSuffix exponent

end TreeSchema.Decimal
