import TreeSchema.Decimal.Shortest

/-!
Writing 64-bit floating point numbers. What two formats disagree on is a `Style`.
-/

namespace TreeSchema.Decimal

/-- How a format writes numbers. -/
structure Style where
  /-- Whether a number with this exponent in scientific notation is written without one. -/
  positional : Int → Bool
  /-- Whether whole numbers keep a point and a zero. -/
  keepsPoint : Bool
  /-- Whether an exponent that is not negative has a sign. -/
  plus : Bool
  /-- Where a number goes that is halfway between two decimals with the fewest digits. -/
  tie : Tie

/-- The parts of a 64-bit floating point number. -/
inductive Parts where
  | nan
  | infinite (negative : Bool)
  | zero (negative : Bool)
  | finite (negative : Bool) (mantissa : Nat) (exponent : Int)

def Parts.ofBits (bits : Nat) : Parts :=
  let negative := bits / 0x8000000000000000 % 2 == 1
  let exponent : Nat := bits / leastMantissa % 0x800
  let fraction : Nat := bits % leastMantissa
  if exponent = 2047 then (if fraction = 0 then .infinite negative else .nan)
  else if exponent = 0 then
    (if fraction = 0 then .zero negative else .finite negative fraction (-1074))
  else .finite negative (leastMantissa + fraction) ((exponent : Int) - 1075)

/-- Digits with a point at `place` digits from the left. -/
def positionalText (digits : List Char) (place : Int) (keepsPoint : Bool) : List Char :=
  if place ≤ 0 then ['0', '.'] ++ List.replicate (-place).toNat '0' ++ digits
  else
    let whole := place.toNat
    if digits.length ≤ whole then
      digits ++ List.replicate (whole - digits.length) '0' ++ (if keepsPoint then ['.', '0'] else [])
    else digits.take whole ++ '.' :: digits.drop whole

/-- Digits with a point after the first and an exponent. -/
def exponentText (digits : List Char) (exponent : Int) (plus : Bool) : List Char :=
  let mantissa :=
    match digits with
    | first :: second :: rest => first :: '.' :: second :: rest
    | short => short
  let sign := if exponent < 0 then ['-'] else if plus then ['+'] else []
  mantissa ++ 'e' :: sign ++ Nat.toDigits 10 exponent.natAbs

def Style.numeral (style : Style) (numeral : Numeral) : List Char :=
  let digits := Nat.toDigits 10 numeral.digits
  let exponent := numeral.exponent + digits.length - 1
  if style.positional exponent then positionalText digits (exponent + 1) style.keepsPoint
  else exponentText digits exponent style.plus

def Style.parts (style : Style) : Parts → List Char
  | .nan => ['N', 'a', 'N']
  | .infinite negative => (if negative then ['-'] else []) ++ ['i', 'n', 'f']
  | .zero negative =>
    (if negative then ['-'] else []) ++ positionalText ['0'] 1 style.keepsPoint
  | .finite negative mantissa exponent =>
    (if negative then ['-'] else []) ++ style.numeral (shortest style.tie mantissa exponent)

/-- The number in this style. -/
def Style.write (style : Style) (number : Float) : String :=
  String.ofList (style.parts (.ofBits number.toBits.toNat))

/-! ### Pieces

A number without an exponent is not written in one go: its sign, the zeros that fill it up, its
point and its digits come one after the other. -/

/-- Zeros are written at most so many at once. -/
def maxZeros : Nat := 64

/-- So many zeros, of which the last run alone may be short. -/
def zeroRuns (count : Nat) : List (List Char) :=
  let full := (count - 1) / maxZeros
  List.replicate full (List.replicate maxZeros '0') ++
    if count = 0 then [] else [List.replicate (count - full * maxZeros) '0']

/-- The pieces of digits with a point at `place` digits from the left. -/
def positionalPieces (digits : List Char) (place : Int) : List (List Char) :=
  if place ≤ 0 then ['0', '.'] :: zeroRuns (-place).toNat ++ [digits]
  else
    let whole := place.toNat
    if digits.length ≤ whole then digits :: zeroRuns (whole - digits.length)
    else [digits.take whole, ['.'], digits.drop whole]

def signPieces (negative : Bool) : List (List Char) :=
  if negative then [['-']] else []

/-- The pieces of a number that is written without an exponent. -/
def Parts.pieces (tie : Tie) : Parts → List (List Char)
  | .nan => [['N', 'a', 'N']]
  | .infinite negative => signPieces negative ++ [['i', 'n', 'f']]
  | .zero negative => signPieces negative ++ [['0']]
  | .finite negative mantissa exponent =>
    let numeral := shortest tie mantissa exponent
    let digits := Nat.toDigits 10 numeral.digits
    signPieces negative ++ positionalPieces digits (numeral.exponent + digits.length)

end TreeSchema.Decimal
