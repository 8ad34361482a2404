import TreeSchema.Formatter.Utility.Printing

/-!
Conditions on texts, numbers and files. A condition is read from left to right, and what an argument
means depends on the ones after it.
-/

namespace TreeSchema.Utility

open Text (Octets)

namespace Condition

/-- What an argument means. -/
inductive Meaning where
  | operand
  | unary (text : String)
  | binary (text : String)
  | negation
  | conjunction
  | disjunction
  | opening
  | closing
  | ending
  deriving DecidableEq, Repr

def unaryOperators : List String :=
  ["-r", "-w", "-x", "-e", "-f", "-d", "-c", "-b", "-p", "-u", "-g", "-k", "-s", "-t", "-z", "-n",
    "-h", "-L", "-O", "-G", "-S"]

def binaryOperators : List String :=
  ["=", "!=", "<", ">", "-eq", "-ne", "-ge", "-gt", "-le", "-lt", "-nt", "-ot", "-ef"]

/-- What an argument means on its own. -/
def meaningOf (arg : Octets) : Meaning :=
  if unaryOperators.contains arg then .unary arg
  else if binaryOperators.contains arg then .binary arg
  else
    match arg with
    | "!" => .negation
    | "-a" => .conjunction
    | "-o" => .disjunction
    | "(" => .opening
    | ")" => .closing
    | _ => .operand

def isBinary (arg : Octets) : Bool :=
  meaningOf arg matches .binary _

/-- What the first of some arguments means. An operator with nothing to work on is an operand. -/
def meaning : List Octets → Meaning
  | [] => .ending
  | arg :: rest =>
    match meaningOf arg, rest with
    | .unary _, [] => .operand
    | .unary text, second :: _ :: _ => if isBinary second then .operand else .unary text
    | .opening, [] => .operand
    | other, _ => other

abbrev Check := StateT (List Octets) (Except Octets)

section

variable (store : Store)

/-- The number that an argument is. -/
def numberOf (arg : Octets) : Check Int := do
  let text := arg.toList
  let blank (c : Char) : Bool := [' ', '\t', '\n', '\x0b', '\x0c', '\r'].contains c
  let (negative, digits) := match text.dropWhile blank with
    | '-' :: rest => (true, rest)
    | '+' :: rest => (false, rest)
    | rest => (false, rest)
  let (value, left) := takeDigitsOf 10 0 digits
  if digits.head?.any Char.isDigit && left.all blank && value < 0x8000000000000000 then
    return if negative then -value else value
  else throw s!"Illegal number: {arg}"

def unary (operator : String) (arg : Octets) : Bool :=
  let entry := store.lookup? arg.decode
  match operator with
  | "-z" => arg.isEmpty
  | "-n" => !arg.isEmpty
  | "-f" => (entry matches some (.file _))
  | "-d" => (entry matches some .directory)
  | "-c" => (entry matches some .null)
  | "-s" =>
    match entry with
    | some (.file content) => content.size > 0
    | some .directory => true
    | _ => false
  | "-x" => (entry matches some .directory)
  | "-e" | "-r" | "-w" | "-O" | "-G" => entry.isSome
  | _ => false

def binary (operator : String) (a b : Octets) : Check Bool := do
  match operator with
  | "=" => return a == b
  | "!=" => return a != b
  | "<" => return a < b
  | ">" => return a > b
  | "-eq" => return (← numberOf a) == (← numberOf b)
  | "-ne" => return (← numberOf a) != (← numberOf b)
  | "-ge" => return (← numberOf a) ≥ (← numberOf b)
  | "-gt" => return (← numberOf a) > (← numberOf b)
  | "-le" => return (← numberOf a) ≤ (← numberOf b)
  | "-lt" => return (← numberOf a) < (← numberOf b)
  | "-ef" =>
    match store.resolve a.decode, store.resolve b.decode with
    | .ok path, .ok other => return path == other && (store.get? path).isSome
    | _, _ => return false
  | _ => return false

mutual

/-- Checks a condition; the first of the arguments that are left is then the last one of it. -/
def either : (fuel : Nat) → Check Bool
  | 0 => return false
  | fuel + 1 => do
    let first ← both fuel
    let left ← get
    if meaning left.tail = .disjunction then
      set (left.drop 2)
      let second ← either fuel
      return first || second
    else return first

def both : (fuel : Nat) → Check Bool
  | 0 => return false
  | fuel + 1 => do
    let first ← negated fuel
    let left ← get
    if meaning left.tail = .conjunction then
      set (left.drop 2)
      let second ← both fuel
      return first && second
    else return first

def negated : (fuel : Nat) → Check Bool
  | 0 => return false
  | fuel + 1 => do
    let left ← get
    if meaning left = .negation then
      if !left.tail.isEmpty then set left.tail
      if left.tail.isEmpty then return true
      return !(← negated fuel)
    else primary fuel

def primary : (fuel : Nat) → Check Bool
  | 0 => return false
  | fuel + 1 => do
    let left ← get
    match meaning left, left with
    | .ending, _ | _, [] => return false
    | .opening, _ :: rest =>
      set rest
      if meaning rest = .closing then return false
      let result ← either fuel
      let left ← get
      set left.tail
      if meaning left.tail = .closing then return result else throw "closing paren expected"
    | .unary operator, _ :: rest =>
      set rest
      match rest with
      | [] => throw s!"{operator}: argument expected"
      | arg :: _ => return unary store operator arg
    | _, arg :: rest =>
      match meaning rest, rest with
      | .binary operator, _ :: more =>
        set more
        match more with
        | [] => throw s!"{operator}: argument expected"
        | other :: _ => binary store operator arg other
      | _, _ => return !arg.isEmpty

end

/-- Checks a condition that must be all that there is. -/
def whole (args : List Octets) : Except Octets Bool := do
  let (result, left) ← (either store (4 * args.length + 8)).run args
  match left with
  | arg :: _ :: _ => throw s!"{arg}: unexpected operator"
  | _ => return result

/-- Whether a condition holds. What three or four arguments mean depends on their number. -/
def holds : List Octets → Except Octets Bool
  | [] => .ok false
  | [a, operator, b] =>
    if isBinary operator then (·.1) <$> (binary store operator a b).run []
    else if a = "(" && b = ")" then whole store [operator]
    else if a = "!" then (holds [operator, b]).map (!·)
    else whole store [a, operator, b]
  | [a, b, c, d] =>
    if a = "(" && d = ")" then whole store [b, c]
    else if a = "!" then (holds [b, c, d]).map (!·)
    else whole store [a, b, c, d]
  | args => whole store args

end

end Condition

/-- Ends with whether a condition holds. -/
def test : Utility := fun args => do
  match Condition.holds (← Task.store) args with
  | .ok result => Task.setStatus (if result then 0 else 1)
  | .error message =>
    Task.warn message
    Task.setStatus 2

/-- The same, where a bracket must close the condition. -/
def bracketTest : Utility := fun args =>
  if args.getLast? = some "]" then test args.dropLast
  else do
    Task.warn "missing ]"
    Task.setStatus 2

end TreeSchema.Utility
