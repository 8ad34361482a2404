import TreeSchema.Decimal.Places
import TreeSchema.Formatter.Utility.Basic

/-!
Printing arguments: as they are, with their escapes read, or through a format.
-/

namespace TreeSchema.Utility

open Text (Octets)

/-! ### Escapes -/

def octalValue? (c : Char) : Option Nat :=
  if '0' ≤ c ∧ c ≤ '7' then some (c.toNat - '0'.toNat) else none

/-- The number that at most `count` octal digits make, and what is left. -/
def takeOctal : (count : Nat) → (value : Nat) → List Char → Nat × List Char
  | count + 1, value, c :: rest =>
    match octalValue? c with
    | some digit => takeOctal count (value * 8 + digit) rest
    | none => (value, c :: rest)
  | _, value, rest => (value, rest)

def byteChar (value : Nat) : Char :=
  Char.ofNat (value % 256)

/-- The character that a letter stands for after a backslash. -/
def escapedChar? : Char → Option Char
  | 'a' => some '\x07'
  | 'b' => some '\x08'
  | 'e' => some '\x1b'
  | 'f' => some '\x0c'
  | 'n' => some '\n'
  | 'r' => some '\r'
  | 't' => some '\t'
  | 'v' => some '\x0b'
  | '\\' => some '\\'
  | _ => none

/-- The character that an escape stands for after its backslash, and what is left. A backslash before
anything else stands for itself. -/
def readEscape (text : List Char) : Char × List Char :=
  match text with
  | [] => ('\\', [])
  | c :: rest =>
    match octalValue? c, escapedChar? c with
    | some _, _ =>
      let (value, rest) := takeOctal 3 0 text
      (byteChar value, rest)
    | none, some escaped => (escaped, rest)
    | none, none => ('\\', text)

/-- A text with its escapes read, and whether one of them ends all printing. An octal number may have
a zero before its digits. -/
def readEscapes : (fuel : Nat) → List Char → List Char × Bool
  | 0, text => (text, false)
  | _, [] => ([], false)
  | fuel + 1, '\\' :: rest =>
    match rest with
    | 'c' :: _ => ([], true)
    | rest =>
      let digits := match rest with
        | '0' :: d :: more => if (octalValue? d).isSome then d :: more else rest
        | rest => rest
      let (c, rest) := readEscape digits
      let (text, stops) := readEscapes fuel rest
      (c :: text, stops)
  | fuel + 1, c :: rest =>
    let (text, stops) := readEscapes fuel rest
    (c :: text, stops)

def unescape (text : Octets) : Octets × Bool :=
  let (characters, stops) := readEscapes (text.length + 1) text.toList
  (String.ofList characters, stops)

/-- Arguments with their escapes read up to the one that ends all printing, if there is one. -/
def unescapeAll : List Octets → List Octets × Bool
  | [] => ([], false)
  | arg :: rest =>
    match unescape arg with
    | (text, true) => ([text], true)
    | (text, false) =>
      let (texts, stops) := unescapeAll rest
      (text :: texts, stops)

/-- Prints its arguments with their escapes read. -/
def echo : Utility := fun args => do
  let (args, ending) := if args.head? = some "-n" then (args.tail, "") else (args, "\n")
  let (texts, stops) := unescapeAll args
  Task.say (" ".intercalate texts ++ if stops then "" else ending)

/-- The letters of an option to printing, if an argument is one. -/
def echoOption? (arg : Octets) : Option (List Char) :=
  match arg.toList with
  | '-' :: c :: rest => if (c :: rest).all fun c => "neE".toList.contains c then some (c :: rest) else none
  | _ => none

/-- Prints its arguments as they are, unless an option asks for their escapes to be read. -/
def echoPlain : Utility := fun args => do
  let options := args.takeWhile fun arg => (echoOption? arg).isSome
  let letters := options.flatMap fun arg => (echoOption? arg).getD []
  let args := args.drop options.length
  let ending := if letters.contains 'n' then "" else "\n"
  if (letters.filter (· != 'n')).getLast? = some 'e' then
    let (texts, stops) := unescapeAll args
    Task.say (" ".intercalate texts ++ if stops then "" else ending)
  else Task.say (" ".intercalate args ++ ending)

/-! ### Formats -/

/-- How a place in a format is filled. -/
structure Place where
  flags : List Char
  width : Nat
  precision? : Option Nat
  letter : Char

/-- Fills a text up to a width. -/
def Place.pad (place : Place) (text : List Char) : List Char :=
  let blanks := List.replicate (place.width - text.length) ' '
  if place.flags.contains '-' then text ++ blanks else blanks ++ text

/-- A number with its sign, filled up with zeros or blanks. -/
def Place.padNumber (place : Place) (sign digits : List Char) : List Char :=
  let digits := match place.precision? with
    | some precision =>
      if precision = 0 && digits = ['0'] then []
      else List.replicate (precision - digits.length) '0' ++ digits
    | none => digits
  let zeros :=
    if place.flags.contains '0' && !place.flags.contains '-' && place.precision?.isNone then
      List.replicate (place.width - sign.length - digits.length) '0'
    else []
  place.pad (sign ++ zeros ++ digits)

def Place.text (place : Place) (text : Octets) : List Char :=
  place.pad (match place.precision? with
    | some precision => text.toList.take precision
    | none => text.toList)

def Place.signed (place : Place) (value : Int) : List Char :=
  let sign :=
    if value < 0 then ['-']
    else if place.flags.contains '+' then ['+']
    else if place.flags.contains ' ' then [' ']
    else []
  place.padNumber sign (Nat.toDigits 10 value.natAbs)

def Place.unsigned (place : Place) (value : Nat) : List Char :=
  let other := place.flags.contains '#' && value ≠ 0
  match place.letter with
  | 'o' =>
    let digits := Nat.toDigits 8 value
    place.padNumber [] (if other then '0' :: digits else digits)
  | 'x' => place.padNumber (if other then ['0', 'x'] else []) (Nat.toDigits 16 value)
  | 'X' =>
    place.padNumber (if other then ['0', 'X'] else [])
      ((Nat.toDigits 16 value).map Char.toUpper)
  | _ => place.padNumber [] (Nat.toDigits 10 value)

/-- A digit of a number whose base is at most sixteen. -/
def digitBelow? (base : Nat) (c : Char) : Option Nat :=
  let digit :=
    if c.isDigit then c.toNat - '0'.toNat
    else if 'a' ≤ c ∧ c ≤ 'f' then c.toNat - 'a'.toNat + 10
    else if 'A' ≤ c ∧ c ≤ 'F' then c.toNat - 'A'.toNat + 10
    else base
  if digit < base then some digit else none

def takeDigitsOf (base value : Nat) : List Char → Nat × List Char
  | [] => (value, [])
  | c :: rest =>
    match digitBelow? base c with
    | some digit => takeDigitsOf base (value * base + digit) rest
    | none => (value, c :: rest)

/-- The number that a text starts with, after blanks and a sign, and what is left after it. Nothing
is taken if there is no digit. -/
def leadingNumber (text : List Char) : Int × List Char :=
  let rest := text.dropWhile fun c => [' ', '\t', '\n', '\x0b', '\x0c', '\r'].contains c
  let (negative, rest) := match rest with
    | '-' :: rest => (true, rest)
    | '+' :: rest => (false, rest)
    | rest => (false, rest)
  let (value, left) := match rest with
    | '0' :: x :: d :: more =>
      if (x = 'x' || x = 'X') && (digitBelow? 16 d).isSome then takeDigitsOf 16 0 (d :: more)
      else takeDigitsOf 8 0 rest
    | '0' :: _ => takeDigitsOf 8 0 rest
    | rest => takeDigitsOf 10 0 rest
  if left.length = rest.length then (0, text) else (if negative then -value else value, left)

/-- What is wrong with an argument that should be a number. -/
def numberFault? (arg : Octets) (left : List Char) (value low high : Int) : Option Octets :=
  if left.length = arg.length && !left.isEmpty then some s!"{arg}: expected numeric value"
  else if !left.isEmpty then some s!"{arg}: not completely converted"
  else if value < low || high < value then some s!"{arg}: Numerical result out of range"
  else none

/-- The number that an argument stands for; a quote before a character asks for its code. -/
def numberOf (low high : Int) (arg : Octets) : Int × Option Octets :=
  match arg.toList with
  | quote :: rest =>
    if quote = '"' || quote = '\'' then ((rest.headD '\x00').toNat, none)
    else
      let (value, left) := leadingNumber arg.toList
      (max low (min high value), numberFault? arg left value low high)
  | [] => (0, none)

/-! ### Numbers with a point -/

/-- The number that a text starts with, after blanks, and what is left after it. -/
def leadingDecimal (text : List Char) : Float × List Char :=
  let rest := text.dropWhile fun c => [' ', '\t', '\n', '\x0b', '\x0c', '\r'].contains c
  let (negative, rest) := match rest with
    | '-' :: rest => (true, rest)
    | '+' :: rest => (false, rest)
    | rest => (false, rest)
  let signed (value : Float) : Float := if negative then -value else value
  let whole := rest.takeWhile Char.isDigit
  let after := rest.drop whole.length
  let (fraction, after) := match after with
    | '.' :: more =>
      let digits := more.takeWhile Char.isDigit
      if whole.isEmpty && digits.isEmpty then ([], after) else (digits, more.drop digits.length)
    | after => ([], after)
  let digits := whole ++ fraction
  if digits.isEmpty then
    let word := String.ofList ((rest.take 3).map Char.toLower)
    if word = "inf" then (signed (1.0 / 0.0), rest.drop 3)
    else if word = "nan" then (0.0 / 0.0, rest.drop 3)
    else (0.0, text)
  else
    let (exponent, left) : Int × List Char := match after with
      | e :: more =>
        if e = 'e' || e = 'E' then
          let (sign, more) : Int × List Char := match more with
            | '-' :: more => (-1, more)
            | '+' :: more => (1, more)
            | more => (1, more)
          let power := more.takeWhile Char.isDigit
          if power.isEmpty then (0, after)
          else (sign * ((takeDigitsOf 10 0 power).1 : Nat), more.drop power.length)
        else (0, after)
      | [] => (0, [])
    let scale := exponent - fraction.length
    (signed (Float.ofScientific (takeDigitsOf 10 0 digits).1 (scale < 0) scale.natAbs), left)

/-- The digits of a number at a place for numbers with a point. -/
def Place.magnitudeText (place : Place) (fraction : Decimal.Fraction) : List Char :=
  let precision := place.precision?.getD 6
  match place.letter.toLower with
  | 'f' => fraction.fixedText precision
  | 'e' => fraction.scientificText precision
  | _ => fraction.generalText precision (place.flags.contains '#')

def Place.floating (place : Place) (number : Float) : List Char :=
  let (negative, text, isFinite) : Bool × List Char × Bool :=
    match Decimal.Parts.ofBits number.toBits.toNat with
    | .nan => (false, ['n', 'a', 'n'], false)
    | .infinite negative => (negative, ['i', 'n', 'f'], false)
    | .zero negative =>
      let zeros := match place.letter.toLower with
        | 'f' => Decimal.pointText 0 (place.precision?.getD 6)
        | 'e' => Decimal.pointText 0 (place.precision?.getD 6) ++ Decimal.exponentSuffix 0
        | _ =>
          if place.flags.contains '#' then Decimal.pointText 0 (place.precision?.getD 6 - 1)
          else ['0']
      (negative, zeros, true)
    | .finite negative mantissa exponent =>
      (negative, place.magnitudeText (.ofBinary mantissa exponent), true)
  let sign :=
    if negative then ['-']
    else if place.flags.contains '+' then ['+']
    else if place.flags.contains ' ' then [' ']
    else []
  let text := if place.letter.isUpper then text.map Char.toUpper else text
  let flags := if isFinite then place.flags else place.flags.filter (· != '0')
  Place.padNumber { place with precision? := none, flags } sign text

/-- What a format has made of arguments so far. -/
structure Formatting where
  output : List Char
  args : List Octets
  /-- Whether an argument has been asked for. -/
  taken : Bool
  faults : List Octets

/-- Why a format stops before its end. -/
inductive FormatStop where
  | ended
  | invalid (message : Octets)

abbrev Format := StateT Formatting (Except (FormatStop × Formatting))

namespace Format

def emit (text : List Char) : Format Unit :=
  modify fun formatting => { formatting with output := formatting.output ++ text }

def nextArg : Format Octets :=
  modifyGet fun formatting =>
    (formatting.args.headD "", { formatting with args := formatting.args.tail, taken := true })

def stop (reason : FormatStop) : Format Unit := do
  throw (reason, ← get)

def nextNumber (low high : Int) : Format Int := do
  let (value, fault?) := numberOf low high (← nextArg)
  modify fun formatting => { formatting with faults := formatting.faults ++ fault?.toList }
  return value

/-- Fills a place with the next argument. -/
def fill (place : Place) (directive : Octets) : Format Unit := do
  match place.letter with
  | 's' => emit (place.text (← nextArg))
  | 'b' =>
    let (text, stops) := unescape (← nextArg)
    emit (place.text text)
    if stops then stop .ended
  | 'c' => emit (place.pad [(← nextArg).toList.headD '\x00'])
  | 'd' | 'i' =>
    emit (place.signed (← nextNumber (-0x8000000000000000) 0x7fffffffffffffff))
  | 'o' | 'u' | 'x' | 'X' =>
    let value ← nextNumber (-0xffffffffffffffff) 0xffffffffffffffff
    emit (place.unsigned (value % 0x10000000000000000).toNat)
  | 'e' | 'E' | 'f' | 'F' | 'g' | 'G' =>
    let arg ← nextArg
    match arg.toList with
    | '"' :: rest | '\'' :: rest => emit (place.floating (Float.ofNat (rest.headD '\x00').toNat))
    | text =>
      let (value, left) := leadingDecimal text
      let fault? := if arg.isEmpty then none else numberFault? arg left 0 0 0
      modify fun formatting => { formatting with faults := formatting.faults ++ fault?.toList }
      emit (place.floating value)
  | _ => stop (.invalid s!"{directive}: invalid directive")

/-- A width or precision that is written, or taken from the next argument after a star. -/
def readSize (text : List Char) : Format (Int × List Char) := do
  match text with
  | '*' :: rest => return (← nextNumber (-0x80000000) 0x7fffffff, rest)
  | text =>
    let digits := text.takeWhile Char.isDigit
    return ((takeDigitsOf 10 0 digits).1, text.drop digits.length)

/-- Fills the place that starts after a percent sign; the answer is what is left of the format. -/
def readPlace (text : List Char) : Format (List Char) := do
  let flags := text.takeWhile fun c => "#-+ 0".toList.contains c
  let (width, rest) ← readSize (text.drop flags.length)
  let (precision?, rest) ← match rest with
    | '.' :: rest => do
      let (precision, rest) ← readSize rest
      pure (if precision < 0 then none else some precision.toNat, rest)
    | rest => pure (none, rest)
  match rest with
  | [] =>
    stop (.invalid "missing format character")
    return []
  | letter :: rest =>
    let flags := if width < 0 then '-' :: flags else flags
    let length := text.length - rest.length
    fill ⟨flags, width.natAbs, precision?, letter⟩ (String.ofList ('%' :: text.take length))
    return rest

/-- Goes through a format once. -/
def run : (fuel : Nat) → List Char → Format Unit
  | 0, _ | _, [] => return ()
  | fuel + 1, '\\' :: rest => do
    let (c, rest) := readEscape rest
    emit [c]
    run fuel rest
  | fuel + 1, '%' :: '%' :: rest => do
    emit ['%']
    run fuel rest
  | fuel + 1, '%' :: rest => do
    let rest ← readPlace rest
    run fuel rest
  | fuel + 1, c :: rest => do
    emit [c]
    run fuel rest

/-- Goes through a format again and again while it takes arguments and there are any. -/
def repeated (format : List Char) : (fuel : Nat) → Format Unit
  | 0 => return ()
  | fuel + 1 => do
    run (format.length + 1) format
    let formatting ← get
    if formatting.taken && !formatting.args.isEmpty then repeated format fuel

end Format

/-- Reports the arguments that are no numbers. -/
def printFormatted (formatting : Formatting) : Task Unit := do
  Task.say (String.ofList formatting.output)
  formatting.faults.forM fun fault => Task.complain fault

/-- Prints its arguments through a format. -/
def printf : Utility := fun args => do
  let option? := args.head?.filter fun arg => arg.startsWith "-" && arg.length > 1
  if option?.any (· != "--") then
    let letter := takeOctets 1 (dropOctets 1 (option?.getD ""))
    Task.warn s!"Illegal option -{letter}"
    return ← Task.setStatus 2
  match (if option?.isSome then args.tail else args) with
  | [] =>
    Task.warn "usage: printf format [arg ...]"
    Task.setStatus 2
  | format :: args =>
    match StateT.run (Format.repeated format.toList (args.length + 1)) ⟨[], args, false, []⟩ with
    | .ok (_, formatting) | .error (.ended, formatting) => printFormatted formatting
    | .error (.invalid message, formatting) =>
      printFormatted formatting
      Task.warn message
      Task.setStatus 2

end TreeSchema.Utility
