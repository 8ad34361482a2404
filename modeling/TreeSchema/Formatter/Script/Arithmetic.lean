import TreeSchema.Formatter.Script.Basic

/-!
Whole numbers in scripts. An expression is evaluated while it is read, so that of two faults the one
that is met first is reported; what a condition leaves out is read but has no effect.
-/

namespace TreeSchema.Script.Arithmetic

open Text (Octets)

inductive Fault where
  | expectingPrimary
  | expectingParenthesis
  | expectingColon
  | expectingEnd
  | divisionByZero
  /-- A variable whose value is no number. -/
  | illegalNumber (text : Octets)
  | readOnly (name : String)
  deriving DecidableEq, Repr

/-- How a fault in an expression is reported. -/
def Fault.message (expression : Octets) : Fault → Octets
  | expectingPrimary => s!"arithmetic expression: expecting primary: \"{expression}\""
  | expectingParenthesis => s!"arithmetic expression: expecting ')': \"{expression}\""
  | expectingColon => s!"arithmetic expression: expecting ':': \"{expression}\""
  | expectingEnd => s!"arithmetic expression: expecting EOF: \"{expression}\""
  | divisionByZero => s!"arithmetic expression: division by zero: \"{expression}\""
  | illegalNumber text => s!"Illegal number: {text}"
  | readOnly name => s!"{name}: is read only"

inductive Token where
  | number (value : Int64)
  | name (name : String)
  | operator (text : String)
  /-- A character that belongs to no expression. -/
  | stray
  deriving DecidableEq, Repr

/-! ### Numbers -/

def digitOf? (base : Nat) (c : Char) : Option Nat :=
  let digit :=
    if c.isDigit then c.toNat - '0'.toNat
    else if 'a' ≤ c ∧ c ≤ 'z' then c.toNat - 'a'.toNat + 10
    else if 'A' ≤ c ∧ c ≤ 'Z' then c.toNat - 'A'.toNat + 10
    else base
  if digit < base then some digit else none

/-- The number that digits start with, and what is left. -/
def takeNumber (base number : Nat) : List Char → Nat × List Char
  | [] => (number, [])
  | c :: rest =>
    match digitOf? base c with
    | some digit => takeNumber base (number * base + digit) rest
    | none => (number, c :: rest)

/-- The number that a text starts with: hexadecimal after `0x`, octal after `0`, else decimal. -/
def readNumber (text : List Char) : Nat × List Char :=
  match text with
  | '0' :: x :: d :: rest =>
    if (x = 'x' || x = 'X') && (digitOf? 16 d).isSome then takeNumber 16 0 (d :: rest)
    else takeNumber 8 0 text
  | '0' :: _ => takeNumber 8 0 text
  | _ => takeNumber 10 0 text

/-- The largest and the smallest number stand for those that are larger and smaller. -/
def clamp (number : Int) : Int64 :=
  if number > 0x7fffffffffffffff then Int64.ofInt 0x7fffffffffffffff
  else if number < -0x8000000000000000 then Int64.ofInt (-0x8000000000000000)
  else Int64.ofInt number

def isSpace (c : Char) : Bool :=
  [' ', '\t', '\n', '\x0b', '\x0c', '\r'].contains c

/-- The number that a whole text stands for. -/
def valueOf? (text : List Char) : Option Int64 :=
  let text := text.dropWhile isSpace
  let (negative, text) := match text with
    | '-' :: rest => (true, rest)
    | '+' :: rest => (false, rest)
    | rest => (false, rest)
  let (number, rest) := readNumber text
  let least := if negative then 0x8000000000000000 else 0x7fffffffffffffff
  if number ≤ least && rest.all isSpace then
    some (clamp (if negative then -(number : Int) else number))
  else none

/-! ### Tokens -/

def operators : List String :=
  ["<<=", ">>=", "<<", ">>", "<=", ">=", "==", "!=", "&&", "||", "+=", "-=", "*=", "/=", "%=", "&=",
    "^=", "|=", "=", "<", ">", "+", "-", "*", "/", "%", "&", "^", "|", "!", "~", "(", ")", "?", ":"]

/-- The operator that a text starts with; a longer one comes first. -/
def operator? (text : List Char) : Option String :=
  operators.find? fun operator => operator.toList.isPrefixOf text

def tokens : (fuel : Nat) → List Char → List Token
  | 0, _ | _, [] => []
  | fuel + 1, c :: rest =>
    if isSpace c then tokens fuel rest
    else if c.isDigit then
      let (number, rest) := readNumber (c :: rest)
      .number (clamp number) :: tokens fuel rest
    else if isNameStart c then
      let name := (c :: rest).takeWhile isNameChar
      .name (String.ofList name) :: tokens fuel ((c :: rest).drop name.length)
    else
      match operator? (c :: rest) with
      | some operator => .operator operator :: tokens fuel ((c :: rest).drop operator.length)
      | none => .stray :: tokens fuel rest

/-! ### Evaluation -/

/-- What is left of an expression, and the values that it has given to variables, last first. -/
structure State where
  rest : List Token
  assigned : List (String × Octets)

/-- Values of variables before the evaluation. A variable may be read-only. -/
structure Variables where
  value? : String → Option Octets
  isReadOnly : String → Bool

abbrev Eval := StateT State (Except Fault)

def truth (holds : Bool) : Int64 :=
  if holds then 1 else 0

def quotient (divide : Int64 → Int64 → Int64) (a b : Int64) : Except Fault Int64 :=
  if b = 0 then .error .divisionByZero else .ok (divide a b)

/-- How tight a binary operator binds. -/
def level? : String → Option Nat
  | "*" | "/" | "%" => some 8
  | "+" | "-" => some 7
  | "<<" | ">>" => some 6
  | "<" | "<=" | ">" | ">=" => some 5
  | "==" | "!=" => some 4
  | "&" => some 3
  | "^" => some 2
  | "|" => some 1
  | _ => none

def apply (operator : String) (a b : Int64) : Except Fault Int64 :=
  match operator with
  | "*" => .ok (a * b)
  | "/" => quotient (· / ·) a b
  | "%" => quotient (· % ·) a b
  | "+" => .ok (a + b)
  | "-" => .ok (a - b)
  | "<<" => .ok (a <<< b)
  | ">>" => .ok (a >>> b)
  | "<" => .ok (truth (a < b))
  | "<=" => .ok (truth (a ≤ b))
  | ">" => .ok (truth (a > b))
  | ">=" => .ok (truth (a ≥ b))
  | "==" => .ok (truth (a == b))
  | "!=" => .ok (truth (a != b))
  | "&" => .ok (a &&& b)
  | "^" => .ok (a ^^^ b)
  | _ => .ok (a ||| b)

/-- The operator of an assignment without its equals sign. -/
def assignment? (operator : String) : Option String :=
  if ["==", "!=", "<=", ">="].contains operator then none
  else
    match operator.toList.reverse with
    | '=' :: rest => some (String.ofList rest.reverse)
    | _ => none

section

variable (outside : Variables)

def nextToken? : Eval (Option Token) := do
  return (← get).rest.head?

def skip : Eval Unit :=
  modify fun state => { state with rest := state.rest.tail }

/-- Goes over an operator if it is the next token. -/
def accept (operator : String) : Eval Bool := do
  if (← nextToken?) = some (.operator operator) then
    skip
    return true
  else return false

def valueOf (name : String) : Eval Int64 := do
  let text := (((← get).assigned.lookup name).orElse fun _ => outside.value? name).getD ""
  match valueOf? text.toList with
  | some value => return value
  | none => throw (.illegalNumber text)

def assign (name : String) (value : Int64) : Eval Unit := do
  if outside.isReadOnly name then throw (.readOnly name)
  modify fun state => { state with assigned := (name, toString value.toInt) :: state.assigned }

mutual

/-- Reads an operand. Variables have no value where it is `idle`. -/
def primary : (fuel : Nat) → (idle : Bool) → Eval Int64
  | 0, _ => throw .expectingPrimary
  | fuel + 1, idle => do
    match ← nextToken? with
    | some (.number value) =>
      skip
      return value
    | some (.name name) =>
      skip
      if idle then return 0 else valueOf outside name
    | some (.operator "(") =>
      skip
      let value ← assignment fuel idle
      if ← accept ")" then return value else throw .expectingParenthesis
    | some (.operator "+") =>
      skip
      primary fuel idle
    | some (.operator "-") =>
      skip
      return -(← primary fuel idle)
    | some (.operator "!") =>
      skip
      return truth ((← primary fuel idle) == 0)
    | some (.operator "~") =>
      skip
      return ~~~(← primary fuel idle)
    | _ => throw .expectingPrimary

/-- Reads operands with operators that bind at least as tight as a level. -/
def binary : (fuel : Nat) → (idle : Bool) → (level : Nat) → Eval Int64
  | 0, _, _ => throw .expectingPrimary
  | fuel + 1, idle, level => do
    let first ← primary fuel idle
    binaryRest fuel idle level first

def binaryRest : (fuel : Nat) → (idle : Bool) → (level : Nat) → Int64 → Eval Int64
  | 0, _, _, first => return first
  | fuel + 1, idle, level, first => do
    match ← nextToken? with
    | some (.operator operator) =>
      match level? operator with
      | some tightness =>
        if tightness < level then return first
        skip
        let second ← binary fuel idle (tightness + 1)
        let value ← if idle then pure second else apply operator first second
        binaryRest fuel idle level value
      | none => return first
    | _ => return first

def conjunction : (fuel : Nat) → (idle : Bool) → Eval Int64
  | 0, _ => throw .expectingPrimary
  | fuel + 1, idle => do
    let first ← binary fuel idle 0
    if ← accept "&&" then
      let second ← conjunction fuel (idle || first == 0)
      return truth (first != 0 && second != 0)
    else return first

def disjunction : (fuel : Nat) → (idle : Bool) → Eval Int64
  | 0, _ => throw .expectingPrimary
  | fuel + 1, idle => do
    let first ← conjunction fuel idle
    if ← accept "||" then
      let second ← disjunction fuel (idle || first != 0)
      return truth (first != 0 || second != 0)
    else return first

def choice : (fuel : Nat) → (idle : Bool) → Eval Int64
  | 0, _ => throw .expectingPrimary
  | fuel + 1, idle => do
    let test ← disjunction fuel idle
    if ← accept "?" then
      let first ← assignment fuel (idle || test == 0)
      if ← accept ":" then
        let second ← choice fuel (idle || test != 0)
        return if test != 0 then first else second
      else throw .expectingColon
    else return test

def assignment : (fuel : Nat) → (idle : Bool) → Eval Int64
  | 0, _ => throw .expectingPrimary
  | fuel + 1, idle => do
    match (← get).rest with
    | .name name :: .operator text :: rest =>
      match assignment? text with
      | some operator =>
        modify fun state => { state with rest }
        let value ← assignment fuel idle
        if idle then return value
        let value ←
          if operator.isEmpty then pure value
          else do apply operator (← valueOf outside name) value
        assign outside name value
        return value
      | none => choice fuel idle
    | _ => choice fuel idle

end

/-- The value of an expression and the variables that it sets, last first. -/
def evaluate (expression : Octets) : Except Fault (Int64 × List (String × Octets)) := do
  let found := tokens expression.length expression.toList
  let (value, state) ← (assignment outside (8 * found.length + 16) false).run ⟨found, []⟩
  if state.rest.isEmpty then return (value, state.assigned) else throw .expectingEnd

end

end TreeSchema.Script.Arithmetic
