import TreeSchema.Formatter.Utility.Basic
import TreeSchema.Text.Regex.Reading

/-!
The program that computes what its arguments say. Each argument is an operand or an operator; a
result that is empty or zero is a failure.
-/

namespace TreeSchema.Utility

open Text (Octets Regex)

inductive Term where
  | text (text : Octets)
  | binary (operator : Octets) (first second : Term)
  | length (term : Term)
  | index (term characters : Term)
  | part (term start size : Term)
  deriving Repr

inductive TermFault where
  | missingOperand
  | missingAfter (text : Octets)
  | missingClosing (text : Octets)
  | unexpected (text : Octets)
  | unexpectedClosing
  | notInteger
  | divisionByZero
  | pattern (fault : Regex.Fault)

def TermFault.message : TermFault → Octets
  | missingOperand => "missing operand"
  | missingAfter text => s!"syntax error: missing argument after {inQuotes text}"
  | missingClosing text =>
    let sign := inQuotes ")"
    s!"syntax error: expecting {sign} after {inQuotes text}"
  | unexpected text => s!"syntax error: unexpected argument {inQuotes text}"
  | unexpectedClosing => "syntax error: unexpected " ++ inQuotes ")"
  | notInteger => "non-integer argument"
  | divisionByZero => "division by zero"
  | pattern fault => fault.message

/-- The operators, those that bind least first. -/
def operatorLevels : List (List Octets) :=
  [["|"], ["&"], ["<", "<=", "=", "==", "!=", ">=", ">"], ["+", "-"], ["*", "/", "%"], [":"]]

/-- The arguments that have not been read, and the last one that has been. -/
abbrev TermReader := StateT (List Octets × Octets) (Except TermFault)

def nextArgument : TermReader Octets := do
  match ← get with
  | ([], last) => throw (if last.isEmpty then .missingOperand else .missingAfter last)
  | (arg :: rest, _) =>
    set (rest, arg)
    return arg

mutual

/-- Reads operands and the operators between them that bind at least as much as a level. -/
def readTerm : (fuel : Nat) → (levels : List (List Octets)) → TermReader Term
  | 0, _ => throw .missingOperand
  | fuel + 1, [] => readOperand fuel
  | fuel + 1, operators :: levels => do
    let first ← readTerm fuel levels
    readOperators fuel operators levels first

def readOperators : (fuel : Nat) → List Octets → List (List Octets) → Term → TermReader Term
  | 0, _, _, first => return first
  | fuel + 1, operators, levels, first => do
    match (← get).1 with
    | operator :: _ =>
      if operators.contains operator then
        discard nextArgument
        let second ← readTerm fuel levels
        readOperators fuel operators levels (.binary operator first second)
      else return first
    | [] => return first

def readOperand : (fuel : Nat) → TermReader Term
  | 0 => throw .missingOperand
  | fuel + 1 => do
    let arg ← nextArgument
    match arg with
    | "(" =>
      let term ← readTerm fuel operatorLevels
      match ← get with
      | (")" :: rest, _) =>
        set (rest, ")")
        return term
      | (_, last) => throw (.missingClosing last)
    | ")" => throw .unexpectedClosing
    | "+" => return .text (← nextArgument)
    | "length" => return .length (← readOperand fuel)
    | "match" =>
      let term ← readOperand fuel
      return .binary ":" term (← readOperand fuel)
    | "index" =>
      let term ← readOperand fuel
      return .index term (← readOperand fuel)
    | "substr" =>
      let term ← readOperand fuel
      let start ← readOperand fuel
      return .part term start (← readOperand fuel)
    | text => return .text text

end

/-- An integer in digits with a minus sign before them or none. -/
def plainInteger? (text : Octets) : Option Int :=
  match text.toList with
  | '-' :: digits => (naturalOf? (String.ofList digits)).map fun n => -(n : Int)
  | _ => (naturalOf? text).map fun n => (n : Int)

/-- Whether a result is a failure. -/
def isNull (text : Octets) : Bool :=
  text.isEmpty || plainInteger? text == some 0

def arithmetic (operator : Octets) (first second : Octets) : Except TermFault Octets :=
  match plainInteger? first, plainInteger? second with
  | some a, some b =>
    match operator with
    | "+" => .ok (toString (a + b))
    | "-" => .ok (toString (a - b))
    | "*" => .ok (toString (a * b))
    | _ =>
      if b = 0 then .error .divisionByZero
      else .ok (toString (if operator = "/" then a.tdiv b else a.tmod b))
  | _, _ => .error .notInteger

/-- The order of two results: of numbers if both are numbers. -/
def compareResults (first second : Octets) : Ordering :=
  match plainInteger? first, plainInteger? second with
  | some a, some b => compare a b
  | _, _ => compare first second

/-- What a pattern matches at the start of a text: the first group, or how much if there is none. -/
def matchResult (text pattern : Octets) : Except TermFault Octets :=
  match Regex.ofText ⟨false, true⟩ pattern with
  | .error fault => .error (.pattern fault)
  | .ok (regex, groups) =>
    let subject : Regex.Subject := ⟨text.toList.toArray, false, false⟩
    .ok (match regex.matchAt? subject 0 with
      | some found =>
        if groups = 0 then toString found.stop
        else String.ofList (Regex.groupText subject found.groups 1)
      | none => if groups = 0 then "0" else "")

def Term.eval : Term → Except TermFault Octets
  | .text value => .ok value
  | .binary operator first second => do
    let a ← first.eval
    match operator with
    | "|" =>
      if !isNull a then return a
      let b ← second.eval
      return if isNull b then "0" else b
    | "&" =>
      if isNull a then return "0"
      let b ← second.eval
      return if isNull b then "0" else a
    | ":" => matchResult a (← second.eval)
    | operator =>
      let b ← second.eval
      if ["+", "-", "*", "/", "%"].contains operator then arithmetic operator a b
      else
        let order := compareResults a b
        let holds : Bool := match operator with
          | "<" => order == .lt
          | "<=" => order != .gt
          | ">" => order == .gt
          | ">=" => order != .lt
          | "!=" => order != .eq
          | _ => order == .eq
        return if holds then "1" else "0"
  | .length term => return toString (← term.eval).length
  | .index term characters => do
    let text := (← term.eval).toList
    let chosen := (← characters.eval).toList
    return toString (((text.findIdx? chosen.contains).map (· + 1)).getD 0)
  | .part term start size => do
    let text ← term.eval
    match plainInteger? (← start.eval), plainInteger? (← size.eval) with
    | some start, some size =>
      if start ≤ 0 || size ≤ 0 then return ""
      return takeOctets size.toNat (dropOctets (start.toNat - 1) text)
    | _, _ => return ""

def computed (args : List Octets) : Except TermFault Octets := do
  let (term, rest, _) ← (readTerm (16 * args.length + 16) operatorLevels).run (args, "")
  match rest with
  | [] => term.eval
  | extra :: _ => throw (.unexpected extra)

def expr : Utility := fun args => do
  let args := if args.head? = some "--" then args.drop 1 else args
  match computed args with
  | .ok result =>
    Task.say (result ++ "\n")
    Task.setStatus (if isNull result then 1 else 0)
  | .error .missingOperand => Task.complainOfUse TermFault.missingOperand.message 2
  | .error fault =>
    Task.warn fault.message
    Task.setStatus 2

end TreeSchema.Utility
