import TreeSchema.Json.Number
import TreeSchema.Json.StringBody

/-!
The tokens of a JSON text. Tokens know where they start and stop, so nothing that reads them needs
the text. A fault ends the token list; it is reported by whoever gets as far as its token, and a
number or string may be at fault in two ways, one for a value that is read and one for a value that
is skipped.
-/

namespace TreeSchema.Json

/-- The three values that are words. -/
inductive Word where
  | null
  | true
  | false
  deriving DecidableEq, Repr

def Word.found : Word → Found
  | null => .null
  | true => .boolean Bool.true
  | false => .boolean Bool.false

/-- Faults of one piece of text, when it is read and when it is skipped. -/
structure TwoFaults where
  reading : Fault
  skipping : Fault
  deriving DecidableEq, Repr

inductive Lexeme where
  | openList
  | closeList
  | openObject
  | closeObject
  | comma
  | colon
  | word (word : Word)
  | numeral (numeral : Numeral)
  | string (body : Body)
  | brokenWord (faults : TwoFaults)
  | brokenNumeral (faults : TwoFaults)
  /-- A character that no token starts with. -/
  | stray
  deriving DecidableEq, Repr

structure Token where
  lexeme : Lexeme
  start : Nat
  stop : Nat
  deriving DecidableEq, Repr

/-- White space between tokens. -/
def isSpace (c : Char) : Bool :=
  c == ' ' || c == '\t' || c == '\n' || c == '\r'

/-- A token, the place after it, and the text after it. -/
abbrev Scanned := Lexeme × Nat × List Char

/-- Scans what is left of a word. -/
def scanWord (word : Word) (start : Nat) : List Char → List Char → Scanned
  | [], text => (.word word, start, text)
  | _ :: _, [] =>
    let fault := ⟨.missingValue, start⟩
    (.brokenWord ⟨fault, fault⟩, start, [])
  | e :: expected, c :: rest =>
    if c = e then scanWord word (start + 1) expected rest
    else
      let fault := ⟨.expectedWord, start + 1⟩
      (.brokenWord ⟨fault, fault⟩, start, rest)

/-- A number that ends before it is complete. When it is skipped the end counts as a bad digit. -/
def unfinishedNumeral (start : Nat) (text : List Char) : Scanned :=
  (.brokenNumeral ⟨⟨.missingValue, start⟩, ⟨.invalidNumber, start⟩⟩, start, text)

/-- A number with a bad digit, reported after it. -/
def badDigit (start : Nat) (text : List Char) : Scanned :=
  let fault := ⟨.invalidNumber, start + 1⟩
  (.brokenNumeral ⟨fault, fault⟩, start, text)

def digits (text : List Char) : List Char :=
  text.takeWhile Char.isDigit

def afterDigits (text : List Char) : List Char :=
  text.dropWhile Char.isDigit

/-- Scans the digits of an exponent after its sign. -/
def scanExponentDigits (numeral : Numeral) (negative : Bool) (start : Nat) :
    List Char → Scanned
  | [] => unfinishedNumeral start []
  | c :: rest =>
    if c.isDigit then
      let exponent := c :: digits rest
      (.numeral { numeral with exponent := some (negative, exponent) },
        start + exponent.length, afterDigits rest)
    else badDigit start rest

/-- Scans an exponent if there is one. -/
def scanExponent (numeral : Numeral) (start : Nat) : List Char → Scanned
  | [] => (.numeral numeral, start, [])
  | c :: rest =>
    if c = 'e' ∨ c = 'E' then
      match rest with
      | '+' :: rest => scanExponentDigits numeral false (start + 2) rest
      | '-' :: rest => scanExponentDigits numeral true (start + 2) rest
      | rest => scanExponentDigits numeral false (start + 1) rest
    else (.numeral numeral, start, c :: rest)

/-- Scans a fraction if there is one, and an exponent. -/
def scanFraction (numeral : Numeral) (start : Nat) : List Char → Scanned
  | [] => (.numeral numeral, start, [])
  | c :: rest =>
    if c = '.' then
      match digits rest, afterDigits rest with
      | [], [] => unfinishedNumeral (start + 1) []
      | [], rest => badDigit (start + 1) rest
      | places, rest =>
        scanExponent { numeral with fraction := some places } (start + 1 + places.length) rest
    else scanExponent numeral start (c :: rest)

/-- Scans a number after its sign. -/
def scanNumeral (negative : Bool) (start : Nat) : List Char → Scanned
  | [] => unfinishedNumeral start []
  | c :: rest =>
    if c = '0' then
      if rest.head?.any Char.isDigit then badDigit (start + 1) rest
      else scanFraction ⟨negative, [c], none, none⟩ (start + 1) rest
    else if c.isDigit then
      let whole := c :: digits rest
      scanFraction ⟨negative, whole, none, none⟩ (start + whole.length) (afterDigits rest)
    else badDigit start rest

def scanString (start : Nat) (text : List Char) : Scanned :=
  let (body, rest) := scanBody .plain start text
  let stop :=
    match body.ending with
    | .closed stop => stop
    | _ => start
  (.string body, stop, rest)

/-- Scans the token that starts with `c` at byte `start`. -/
def scanToken (start : Nat) (c : Char) (rest : List Char) : Scanned :=
  if c = '[' then (.openList, start + 1, rest)
  else if c = ']' then (.closeList, start + 1, rest)
  else if c = '{' then (.openObject, start + 1, rest)
  else if c = '}' then (.closeObject, start + 1, rest)
  else if c = ',' then (.comma, start + 1, rest)
  else if c = ':' then (.colon, start + 1, rest)
  else if c = '"' then scanString (start + 1) rest
  else if c = '-' then scanNumeral true (start + 1) rest
  else if c.isDigit then scanNumeral false start (c :: rest)
  else if c = 'n' then scanWord .null (start + 1) ['u', 'l', 'l'] rest
  else if c = 't' then scanWord .true (start + 1) ['r', 'u', 'e'] rest
  else if c = 'f' then scanWord .false (start + 1) ['a', 'l', 's', 'e'] rest
  else (.stray, start, rest)

/-- Whether a text can be read beyond the token. -/
def Lexeme.isSound : Lexeme → Bool
  | brokenWord _ | brokenNumeral _ | stray => false
  | string body => body.ending.fault?.isNone
  | _ => true

/-- The tokens of a text that starts at byte `start`. Each token takes a character, so a count of
them bounds the tokens. -/
def scan : (fuel start : Nat) → List Char → List Token
  | 0, _, _ => []
  | _, _, [] => []
  | fuel + 1, start, c :: rest =>
    if isSpace c then scan fuel (start + 1) rest
    else
      let (lexeme, stop, rest) := scanToken start c rest
      ⟨lexeme, start, stop⟩ :: if lexeme.isSound then scan fuel stop rest else []

/-- The tokens of a text. -/
def tokens (text : List Char) : List Token :=
  scan text.length 0 text

end TreeSchema.Json
