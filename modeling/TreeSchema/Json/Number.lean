import TreeSchema.Decimal.Style
import TreeSchema.Json.Fault

/-!
Numbers as they are written, and what they are reported as where another value was expected.
-/

namespace TreeSchema.Json

/-- The parts of a written number. -/
structure Numeral where
  negative : Bool
  whole : List Char
  fraction : Option (List Char)
  /-- Whether the exponent has a minus sign, and its digits. -/
  exponent : Option (Bool × List Char)
  deriving DecidableEq, Repr

/-- Whole numbers keep a point, small exponents are avoided and a tie goes to the even digit. -/
def floatStyle : Decimal.Style where
  positional exponent := -5 ≤ exponent && exponent < 16
  keepsPoint := true
  plus := true
  tie := .toEven

def digitValue (c : Char) : Nat :=
  c.toNat - '0'.toNat

/-- Appends digits to a number while it fits into 64 bits. The answer holds the number and how many
digits were taken. -/
def takeDigits (number taken : Nat) : List Char → Nat × Nat
  | [] => (number, taken)
  | c :: rest =>
    let next := number * 10 + digitValue c
    if next < 0x10000000000000000 then takeDigits next (taken + 1) rest else (number, taken)

/-- Reads an exponent of at most 31 bits. Otherwise the answer is how many digits were read when
it became too large. -/
def exponentValue (number read : Nat) : List Char → Except Nat Nat
  | [] => .ok number
  | c :: rest =>
    let next := number * 10 + digitValue c
    if next < 0x80000000 then exponentValue next (read + 1) rest else .error (read + 1)

def powerOfTen (exponent : Nat) : Float :=
  Float.ofScientific 1 false exponent

/-- `number * 10 ^ exponent` in one floating point operation where a power of ten allows it, or
nothing if the product is out of range. A number that stays positive after `fuel` divisions by the
largest power is not reached. -/
def scaleFloat (number : Float) : Nat → Int → Option Float
  | 0, _ => some number
  | fuel + 1, exponent =>
    if exponent.natAbs ≤ 308 then
      if exponent ≥ 0 then
        let product := number * powerOfTen exponent.natAbs
        if product.isInf then none else some product
      else some (number / powerOfTen exponent.natAbs)
    else if number == 0.0 then some number
    else if exponent ≥ 0 then none
    else scaleFloat (number / powerOfTen 308) fuel (exponent + 308)

namespace Numeral

/-- The leading digits that fit into 64 bits, and the power of ten they are to be scaled by before
the written exponent counts. -/
def significand (numeral : Numeral) : Nat × Int :=
  let (whole, taken) := takeDigits 0 0 numeral.whole
  let dropped := numeral.whole.length - taken
  match numeral.fraction with
  | none => (whole, dropped)
  | some digits =>
    let (number, places) := takeDigits whole 0 digits
    (number, (dropped : Int) - places)

def signed (numeral : Numeral) (number : Float) : Float :=
  if numeral.negative then -number else number

/-- The number as a float, `stop` being the place after it. -/
def float (numeral : Numeral) (stop : Nat) : Except Fault Float :=
  let (number, places) := numeral.significand
  let start := (UInt64.ofNat number).toFloat
  let scaled (exponent : Int) : Except Fault Float :=
    match scaleFloat start 8 exponent with
    | some value => .ok (numeral.signed value)
    | none => .error ⟨.numberOutOfRange, stop⟩
  match numeral.exponent with
  | none => scaled places
  | some (negative, digits) =>
    match exponentValue 0 0 digits with
    | .ok exponent => scaled (if negative then places - exponent else places + exponent)
    | .error read =>
      if number ≠ 0 ∧ !negative then
        .error ⟨.numberOutOfRange, stop - (digits.length - read)⟩
      else .ok (numeral.signed 0.0)

/-- What the number is reported as: an integer where it is written as one and fits into 64 bits,
else a float. -/
def found (numeral : Numeral) (stop : Nat) : Except Fault Found :=
  let (number, places) := numeral.significand
  if numeral.fraction.isNone ∧ numeral.exponent.isNone ∧ places = 0 ∧
      (numeral.negative → number ≠ 0 ∧ number ≤ 0x8000000000000000) then
    .ok (.integer ((if numeral.negative then "-" else "") ++ toString number))
  else do
    let value ← numeral.float stop
    return .float (floatStyle.write value)

end Numeral

end TreeSchema.Json
