import TreeSchema.Formatter.Script.Basic

/-!
The text of a script while it is read: characters one after the other, where a backslash before a
line break joins two lines, and the tokens that commands are made of.
-/

namespace TreeSchema.Script

open Text (Octets)

inductive Token where
  | endOfFile
  | newline
  | symbol (text : String)
  /-- The operator of a redirection, with the descriptor before it. -/
  | redirect (descriptor? : Option Nat) (operator : String)
  | word (word : Word)
  /-- A word that has a meaning of its own where a command may start. -/
  | reserved (text : String)

/-- How a token is called in a syntax fault. -/
def Token.shown : Token → String
  | endOfFile => "end of file"
  | newline => "newline"
  | symbol text | reserved text => s!"\"{text}\""
  | redirect .. => "redirection"
  | word _ => "word"

def reservedWords : List String :=
  ["!", "case", "do", "done", "elif", "else", "esac", "fi", "for", "if", "in", "then", "until",
    "while", "\x7b", "\x7d"]

/-- A token as it is where reserved words are looked for. -/
def Token.withReserved : Token → Token
  | .word parts =>
    match Word.plain? parts with
    | some text => if reservedWords.contains text then .reserved text else .word parts
    | none => .word parts
  | token => token

/-- A text that a redirection asks for and that stands after the line it is on. -/
structure Awaited where
  number : Nat
  delimiter : Octets
  /-- Whether parameters in the text are replaced. -/
  replaced : Bool
  stripTabs : Bool

structure Source where
  text : List Char
  line : Nat
  /-- A token that has been read and put back. -/
  pushed? : Option Token
  awaited : List Awaited
  /-- The texts that have been found, with their numbers. -/
  documents : List (Nat × Word)
  nextDocument : Nat

abbrev Scan := StateT Source (Except SyntaxFault)

namespace Scan

def fail {α : Type} (message : String) : Scan α := do
  throw ⟨(← get).line, message⟩

/-- Drops joins of lines, and counts them. -/
def dropJoins : List Char → Nat → List Char × Nat
  | '\\' :: '\n' :: rest, line => dropJoins rest (line + 1)
  | text, line => (text, line)

/-- The next character, joins of lines being dropped. -/
def peek : Scan (Option Char) :=
  modifyGet fun source =>
    let (text, line) := dropJoins source.text source.line
    (text.head?, { source with text, line })

/-- The next character as it stands. -/
def peekRaw : Scan (Option Char) := do
  return (← get).text.head?

/-- Goes over a character. -/
def advance : Scan Unit :=
  modify fun source =>
    match source.text with
    | [] => source
    | c :: rest => { source with text := rest, line := source.line + if c = '\n' then 1 else 0 }

/-- Goes over a character if it is the next one. -/
def accept (c : Char) : Scan Bool := do
  if (← peek) = some c then
    advance
    return true
  else return false

/-- Goes over the characters of which the predicate holds. -/
def takeWhile (holds : Char → Bool) : (fuel : Nat) → Scan Octets
  | 0 => return ""
  | fuel + 1 => do
    match ← peek with
    | some c =>
      if holds c then
        advance
        return String.singleton c ++ (← takeWhile holds fuel)
      else return ""
    | none => return ""

/-- Goes over a comment up to the line break. -/
def skipComment : Scan Unit :=
  modify fun source => { source with text := source.text.dropWhile (· != '\n') }

/-- Makes a token the next one. -/
def putBack (token : Token) : Scan Unit :=
  modify fun source => { source with pushed? := some token }

/-- As many steps as there are characters left, and one more. -/
def fuel : Scan Nat := do
  return (← get).text.length + 1

/-- The operator that starts with an angle bracket, which has been read. -/
def redirectOperator (bracket : Char) : Scan String := do
  if bracket = '>' then
    if ← accept '>' then return ">>"
    else if ← accept '|' then return ">|"
    else if ← accept '&' then return ">&"
    else return ">"
  else if ← accept '<' then
    if ← accept '-' then return "<<-" else return "<<"
  else if ← accept '&' then return "<&"
  else if ← accept '>' then return "<>"
  else return "<"

/-- Reads with a text in place of what is left, and then goes on behind it. -/
def within {α : Type} (text : List Char) (line : Nat) (read : Scan α) : Scan α := do
  let outer ← get
  set { outer with text, line, pushed? := none, awaited := [] }
  let result ← read
  modify fun source =>
    { outer with documents := source.documents, nextDocument := source.nextDocument }
  return result

end Scan

end TreeSchema.Script
