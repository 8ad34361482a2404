import TreeSchema.Formatter.Script.Source

/-!
Reading the words of scripts. What a word holds between `$(` and `)` or between backquotes is a
script again; reading it is left to a parameter. The fuel of a function is at least the number of
characters left, and one more.
-/

namespace TreeSchema.Script

open Text (Octets)

namespace Scan

def unterminated {α : Type} : Scan α :=
  fail "Unterminated quoted string"

/-- The rest of a text in single quotes. -/
def single : (fuel : Nat) → Scan Octets
  | 0 => unterminated
  | fuel + 1 => do
    match ← peekRaw with
    | none => unterminated
    | some c =>
      advance
      if c = '\'' then return "" else return String.singleton c ++ (← single fuel)

/-- The rest of a text in backquotes. A backslash hides what would end it. -/
def backquoted (double : Bool) : (fuel : Nat) → Scan (List Char)
  | 0 => fail "EOF in backquote substitution"
  | fuel + 1 => do
    match ← peek with
    | none => fail "EOF in backquote substitution"
    | some c =>
      advance
      if c = '`' then return []
      else if c = '\\' then
        match ← peekRaw with
        | none => fail "EOF in backquote substitution"
        | some d =>
          advance
          let rest ← backquoted double fuel
          if ['\\', '`', '$'].contains d || double && d == '"' then return d :: rest
          else return '\\' :: d :: rest
      else return c :: (← backquoted double fuel)

end Scan

/-- Characters that end a word. -/
def endsWord (c : Char) : Bool :=
  [' ', '\t', '\n', ';', '&', '|', '<', '>', '(', ')'].contains c

/-- Names of parameters that are one sign. -/
def isSpecial (c : Char) : Bool :=
  ['#', '?', '$', '!', '-', '*', '@'].contains c

/-- The quotes that a parameter stands in. -/
inductive Quoting where
  | bare
  | double
  /-- The text after a redirection, where double quotes mean nothing. -/
  | document
  deriving DecidableEq, Repr

/-- What ends a text in which parameters are replaced and which is not split. -/
inductive Closing where
  | quote
  /-- A brace, unless quotes have been opened after the one it belongs to. -/
  | brace (quoting : Quoting) (opened : Bool)
  | parentheses (depth : Nat)
  | endOfText

/-- Whether a backslash takes the meaning from a character. -/
def Closing.escapes (closing : Closing) (c : Char) : Bool :=
  ['\\', '`', '$'].contains c ||
  match closing with
  | .endOfText => false
  | .brace .. => c == '"' || c == '\x7d'
  | _ => c == '"'

def Closing.quoting : Closing → Quoting
  | .brace quoting _ => quoting
  | .endOfText => .document
  | _ => .double

/-- What a text that is not closed is reported as. -/
def Closing.unclosed : Closing → Scan Word
  | .endOfText => return []
  | .brace .document _ => Scan.fail "Missing '\x7d'"
  | .parentheses _ => Scan.fail "Missing '))'"
  | _ => Scan.unterminated

section

-- Reads commands, up to a closing parenthesis or to the end.
variable (inner : (parenthesized : Bool) → Scan Command)

mutual

/-- The parts of a word; in braces it is an operand. Nothing is replaced in a delimiter. -/
def readBare (braced delimiter : Bool) : (fuel : Nat) → Scan Word
  | 0 => return []
  | fuel + 1 => do
    match ← Scan.peek with
    | none => if braced then Scan.fail "Missing '\x7d'" else return []
    | some c =>
      if endsWord c && !braced then return []
      Scan.advance
      if c = '\\' then
        match ← Scan.peekRaw with
        | none => return [.literal "\\"]
        | some d =>
          Scan.advance
          return .literal (String.singleton d) :: (← readBare braced delimiter fuel)
      else if c = '\'' then
        let text ← Scan.single (← Scan.fuel)
        return .literal text :: (← readBare braced delimiter fuel)
      else if c = '"' then
        let parts ← readDouble .quote fuel
        return .quoted parts :: (← readBare braced delimiter fuel)
      else if c = '$' && !delimiter then
        let part ← readDollar .bare fuel
        return part :: (← readBare braced delimiter fuel)
      else if c = '`' && !delimiter then
        let part ← readBackquoted false fuel
        return part :: (← readBare braced delimiter fuel)
      else if c = '\x7d' && braced then return []
      else return (← readBare braced delimiter fuel).push c

def readDouble (closing : Closing) : (fuel : Nat) → Scan Word
  | 0 => return []
  | fuel + 1 => do
    match ← Scan.peek with
    | none => closing.unclosed
    | some c =>
      Scan.advance
      match c, closing with
      | '\\', _ =>
        match ← Scan.peekRaw with
        | none => return .literal "\\" :: (← readDouble closing fuel)
        | some d =>
          Scan.advance
          let text := if closing.escapes d then [d] else ['\\', d]
          return .literal (String.ofList text) :: (← readDouble closing fuel)
      | '$', _ =>
        let part ← readDollar closing.quoting fuel
        return part :: (← readDouble closing fuel)
      | '`', _ =>
        let part ← readBackquoted true fuel
        return part :: (← readDouble closing fuel)
      | '"', .quote => return []
      | '"', .brace quoting opened => readDouble (.brace quoting !opened) fuel
      | '\x7d', .brace _ false => return []
      | '(', .parentheses depth =>
        return (← readDouble (.parentheses (depth + 1)) fuel).push c
      | ')', .parentheses (depth + 1) =>
        return (← readDouble (.parentheses depth) fuel).push c
      | ')', .parentheses 0 =>
        if ← Scan.accept ')' then return []
        else return (← readDouble (.parentheses 0) fuel).push c
      | c, closing => return (← readDouble closing fuel).push c

/-- What follows a dollar sign. Without a name the sign stands for itself. -/
def readDollar (quoting : Quoting) : (fuel : Nat) → Scan WordPart
  | 0 => return .text "$"
  | fuel + 1 => do
    match ← Scan.peek with
    | none => return .text "$"
    | some c =>
      if c = '(' then
        Scan.advance
        if ← Scan.accept '(' then return .arithmetic (← readDouble (.parentheses 0) fuel)
        else return .output (← inner true)
      else if c = '\x7b' then
        Scan.advance
        readBraces quoting fuel
      else if isNameStart c then return .parameter (← Scan.takeWhile isNameChar (← Scan.fuel))
      else if c.isDigit || isSpecial c then
        Scan.advance
        return .parameter (String.singleton c)
      else return .text "$"

/-- What follows a dollar sign and a brace. -/
def readBraces (quoting : Quoting) : (fuel : Nat) → Scan WordPart
  | 0 => return .malformed
  | fuel + 1 => do
    match ← Scan.peek with
    | none => readMalformed quoting fuel
    | some c =>
      if isNameStart c then
        readOperator quoting (← Scan.takeWhile isNameChar (← Scan.fuel)) none fuel
      else if c.isDigit then
        readOperator quoting (← Scan.takeWhile Char.isDigit (← Scan.fuel)) none fuel
      else
        Scan.advance
        match c, ← Scan.peek with
        | '\x7d', _ => return .malformed
        | '#', some d =>
          if isNameChar d then
            let name ←
              if d.isDigit then
                Scan.advance
                pure (String.singleton d)
              else Scan.takeWhile isNameChar (← Scan.fuel)
            if ← Scan.accept '\x7d' then return .length name else readMalformed quoting fuel
          else
            Scan.advance
            if d = '\x7d' || (← Scan.peek) != some '\x7d' then
              readOperator quoting "#" (some d) fuel
            else if isSpecial d then
              Scan.advance
              return .length (String.singleton d)
            else readMalformed quoting fuel
        | c, _ =>
          if isSpecial c then readOperator quoting (String.singleton c) none fuel
          else readMalformed quoting fuel

/-- What follows the name of a parameter in braces, if need be after a sign that has been read. -/
def readOperator (quoting : Quoting) (name : String) (sign? : Option Char) :
    (fuel : Nat) → Scan WordPart
  | 0 => return .malformed
  | fuel + 1 => do
    let next : Scan (Option Char) := do
      let c ← Scan.peek
      Scan.advance
      return c
    let substitute (orEmpty : Bool) (sign : Option Char) : Scan WordPart := do
      match sign with
      | some '-' => return .substitute name orEmpty .default (← readOperand quoting fuel)
      | some '=' => return .substitute name orEmpty .assign (← readOperand quoting fuel)
      | some '?' => return .substitute name orEmpty .demand (← readOperand quoting fuel)
      | some '+' => return .substitute name orEmpty .alternative (← readOperand quoting fuel)
      | _ => readMalformed quoting fuel
    let trimmed (left : Bool) (sign : Char) : Scan WordPart := do
      let longest ← Scan.accept sign
      return .trimmed name ⟨left, longest⟩ (← readBare true false fuel)
    match ← (match sign? with | some sign => pure (some sign) | none => next) with
    | some '\x7d' => return .parameter name
    | some ':' =>
      match ← next with
      | some '\x7d' =>
        let _ ← readOperand quoting fuel
        return .parameter name
      | sign => substitute true sign
    | some '%' => trimmed false '%'
    | some '#' => trimmed true '#'
    | sign => substitute false sign

def readOperand (quoting : Quoting) : (fuel : Nat) → Scan Word
  | 0 => return []
  | fuel + 1 =>
    match quoting with
    | .bare => readBare true false fuel
    | quoting => readDouble (.brace quoting false) fuel

/-- Goes over the rest of braces that have no meaning. -/
def readMalformed (quoting : Quoting) : (fuel : Nat) → Scan WordPart
  | 0 => return .malformed
  | fuel + 1 => do
    let _ ← readOperand quoting fuel
    return .malformed

def readBackquoted (double : Bool) : (fuel : Nat) → Scan WordPart
  | 0 => return .malformed
  | _ + 1 => do
    let text ← Scan.backquoted double (← Scan.fuel)
    return .output (← Scan.within text 1 (inner false))

end

/-- The descriptor that a word before an angle bracket is. -/
def descriptor? : Word → Option (Option Nat)
  | [] => some none
  | [.text text] =>
    match text.toList with
    | [c] => if c.isDigit then some (some (c.toNat - '0'.toNat)) else none
    | _ => none
  | _ => none

/-- Enough fuel for the words of what is left. -/
def wordFuel : Scan Nat := do
  return 4 * (← Scan.fuel) + 8

/-- The next token that starts with this character. -/
def readSymbol (c : Char) : Scan Token := do
  Scan.advance
  let doubled ← if ['&', '|', ';'].contains c then Scan.accept c else pure false
  return .symbol (if doubled then String.ofList [c, c] else String.singleton c)

/-- The next token. -/
def readToken (delimiter : Bool) : (fuel : Nat) → Scan Token
  | 0 => return .endOfFile
  | fuel + 1 => do
    match ← Scan.peek with
    | none => return .endOfFile
    | some c =>
      if c = ' ' || c = '\t' then
        Scan.advance
        readToken delimiter fuel
      else if c = '#' then
        Scan.skipComment
        readToken delimiter fuel
      else if c = '\n' then
        Scan.advance
        return .newline
      else if ['&', '|', ';', '(', ')'].contains c then readSymbol c
      else
        let word ← readBare inner false delimiter (← wordFuel)
        match ← Scan.peek, descriptor? word with
        | some '<', some number? =>
          Scan.advance
          return .redirect number? (← Scan.redirectOperator '<')
        | some '>', some number? =>
          Scan.advance
          return .redirect number? (← Scan.redirectOperator '>')
        | _, _ => return .word word

end

end TreeSchema.Script
