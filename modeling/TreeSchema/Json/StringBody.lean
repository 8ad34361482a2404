import TreeSchema.Json.Fault
import TreeSchema.Text.Size

/-!
Strings between their quotes. A body is scanned into parts without asking what the escapes stand
for; `decode` asks, and refuses halves of surrogate pairs.
-/

namespace TreeSchema.Json

/-- One character, one escaped character, or one escape of a UTF-16 unit. -/
inductive Part where
  | char (c : Char)
  | escape (c : Char)
  | unit (value : Nat)
  deriving DecidableEq, Repr

/-- How the scan of a string ended, and where. -/
inductive BodyEnd where
  | closed (stop : Nat)
  | unclosed (stop : Nat)
  | control (start : Nat)
  | badLetter (stop : Nat)
  | badHex (stop : Nat)
  deriving DecidableEq, Repr

/-- The parts of a string, each with the place after it. -/
structure Body where
  parts : List (Part × Nat)
  ending : BodyEnd
  deriving DecidableEq, Repr

def Body.cons (part : Part) (stop : Nat) (body : Body) : Body :=
  { body with parts := (part, stop) :: body.parts }

/-- Whether the scan is inside an escape. -/
inductive ScanState where
  | plain
  | escape
  | hex (value count : Nat)

/-- The character that an escape letter stands for. -/
def escapedChar? : Char → Option Char
  | '"' => some '"'
  | '\\' => some '\\'
  | '/' => some '/'
  | 'b' => some '\x08'
  | 'f' => some '\x0c'
  | 'n' => some '\n'
  | 'r' => some '\r'
  | 't' => some '\t'
  | _ => none

def hexValue? (c : Char) : Option Nat :=
  if c.isDigit then some (c.toNat - '0'.toNat)
  else if 'a' ≤ c ∧ c ≤ 'f' then some (c.toNat - 'a'.toNat + 10)
  else if 'A' ≤ c ∧ c ≤ 'F' then some (c.toNat - 'A'.toNat + 10)
  else none

/-- Scans a string after its opening quote. The answer holds the body and what follows the string. -/
def scanBody : ScanState → Nat → List Char → Body × List Char
  | _, start, [] => (⟨[], .unclosed start⟩, [])
  | .plain, start, c :: rest =>
    if c = '"' then (⟨[], .closed (start + 1)⟩, rest)
    else if c = '\\' then scanBody .escape (start + 1) rest
    else if c.toNat < 32 then (⟨[], .control start⟩, rest)
    else
      let (body, rest) := scanBody .plain (start + c.utf8Size) rest
      (body.cons (.char c) (start + c.utf8Size), rest)
  | .escape, start, c :: rest =>
    if c = 'u' then scanBody (.hex 0 0) (start + 1) rest
    else
      match escapedChar? c with
      | none => (⟨[], .badLetter (start + 1)⟩, rest)
      | some e =>
        let (body, rest) := scanBody .plain (start + 1) rest
        (body.cons (.escape e) (start + 1), rest)
  | .hex value count, start, c :: rest =>
    match hexValue? c with
    | none =>
      if Text.byteSize (c :: rest) < 4 - count then
        (⟨[], .unclosed (start + Text.byteSize (c :: rest))⟩, rest)
      else (⟨[], .badHex (start + (4 - count))⟩, rest)
    | some digit =>
      let value := value * 16 + digit
      if count < 3 then scanBody (.hex value (count + 1)) (start + 1) rest
      else
        let (body, rest) := scanBody .plain (start + 1) rest
        (body.cons (.unit value) (start + 1), rest)

namespace BodyEnd

/-- The fault of a string that is read for its value. -/
def fault? : BodyEnd → Option Fault
  | closed _ => none
  | unclosed stop => some ⟨.unclosedString, stop⟩
  | control start => some ⟨.controlCharacter, start + 1⟩
  | badLetter stop => some ⟨.invalidEscape, stop⟩
  | badHex stop => some ⟨.invalidEscape, stop⟩

/-- The fault of a string that is skipped. -/
def skipFault? : BodyEnd → Option Fault
  | control start => some ⟨.controlCharacter, start⟩
  | ending => ending.fault?

/-- The fault of a leading surrogate that ends at `start` and has nothing but the end after it. -/
def afterSurrogate (start : Nat) : BodyEnd → Fault
  | closed _ | control _ => ⟨.unpairedSurrogate, start + 1⟩
  | unclosed stop => ⟨.unclosedString, stop⟩
  | badLetter stop => ⟨.unpairedSurrogate, stop⟩
  | badHex stop => ⟨.invalidEscape, stop⟩

end BodyEnd

def isLeading (unit : Nat) : Bool :=
  0xd800 ≤ unit && unit < 0xdc00

def isTrailing (unit : Nat) : Bool :=
  0xdc00 ≤ unit && unit < 0xe000

/-- The character of a surrogate pair. -/
def pairChar (leading trailing : Nat) : Char :=
  Char.ofNat ((leading - 0xd800) * 1024 + (trailing - 0xdc00) + 0x10000)

/-- The characters that the parts stand for. -/
def decodeParts (ending : BodyEnd) : List (Part × Nat) → Except Fault (List Char)
  | [] =>
    match ending.fault? with
    | none => .ok []
    | some fault => .error fault
  | (.char c, _) :: rest => (decodeParts ending rest).map (c :: ·)
  | (.escape c, _) :: rest => (decodeParts ending rest).map (c :: ·)
  | (.unit u, stop) :: rest =>
    if isTrailing u then .error ⟨.loneSurrogate, stop⟩
    else if isLeading u then
      match rest with
      | [] => .error (ending.afterSurrogate stop)
      | (.char _, _) :: _ => .error ⟨.unpairedSurrogate, stop + 1⟩
      | (.escape _, stop) :: _ => .error ⟨.unpairedSurrogate, stop⟩
      | (.unit v, stop) :: rest =>
        if isTrailing v then (decodeParts ending rest).map (pairChar u v :: ·)
        else .error ⟨.loneSurrogate, stop⟩
    else (decodeParts ending rest).map (Char.ofNat u :: ·)

/-- The string that the body stands for. -/
def Body.decode (body : Body) : Except Fault String :=
  (decodeParts body.ending body.parts).map String.ofList

end TreeSchema.Json
