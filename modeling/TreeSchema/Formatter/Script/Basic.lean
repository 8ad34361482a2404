import TreeSchema.Text.Octets

/-!
Scripts that formatter commands are written in. A script is a command; commands are made of words,
and a word has parts that are replaced when the command runs.
-/

namespace TreeSchema.Script

open Text (Octets)

/-- What the operand of a parameter is for. -/
inductive Substitute where
  /-- It stands for a missing value. -/
  | default
  /-- It is made the value of a variable that has none. -/
  | assign
  /-- It is what the script stops with if there is no value. -/
  | demand
  /-- It stands for a value that is there. -/
  | alternative
  deriving DecidableEq, Repr

/-- Which end of a value a pattern takes away, and how much of it. -/
structure Trim where
  left : Bool
  longest : Bool
  deriving DecidableEq, Repr

inductive RedirectKind where
  | read
  | write
  /-- As to write, but to a file that is there even where such files are to be kept. -/
  | overwrite
  | append
  | readWrite
  /-- To where another descriptor leads. -/
  | duplicate
  deriving DecidableEq, Repr

mutual

/-- A part of a word. What is quoted is neither split nor matched as a pattern. -/
inductive WordPart where
  | text (text : Octets)
  | literal (text : Octets)
  | quoted (parts : List WordPart)
  | parameter (name : String)
  | length (name : String)
  /-- A parameter with an operand that counts when it is unset, or also when it is empty. -/
  | substitute (name : String) (orEmpty : Bool) (use : Substitute) (operand : List WordPart)
  | trimmed (name : String) (trim : Trim) (pattern : List WordPart)
  | output (command : Command)
  | arithmetic (expression : List WordPart)
  /-- Braces that hold no way to read a parameter. -/
  | malformed

/-- Where a descriptor of a command leads. -/
inductive Redirect where
  | toFile (descriptor : Nat) (kind : RedirectKind) (target : List WordPart)
  /-- The text with this number among the texts that stand in the script. -/
  | document (descriptor : Nat) (number : Nat)

inductive Command where
  | nothing
  | simple (line : Nat) (assignments : List (String × List WordPart))
      (words : List (List WordPart)) (redirects : List Redirect)
  | redirected (line : Nat) (body : Command) (redirects : List Redirect)
  | subshell (line : Nat) (body : Command) (redirects : List Redirect)
  | pipeline (commands : List Command)
  | background (body : Command)
  | negation (body : Command)
  | sequence (first second : Command)
  | conjunction (first second : Command)
  | disjunction (first second : Command)
  | conditional (test body otherwise : Command)
  /-- Runs the body as long as the test ends as asked. -/
  | loop (success : Bool) (test body : Command)
  | each (line : Nat) (name : String) (words : List (List WordPart)) (body : Command)
  | choice (line : Nat) (subject : List WordPart) (arms : List Arm)
  | definition (line : Nat) (name : String) (body : Command)

inductive Arm where
  | mk (patterns : List (List WordPart)) (body : Command)

end

abbrev Word := List WordPart

/-- Why a text is no script. -/
structure SyntaxFault where
  line : Nat
  message : String
  deriving DecidableEq, Repr

/-- The commands of a text from first to last, what is wrong after them, and the texts that stand in
it for commands to read. -/
structure Contents where
  commands : List Command
  fault? : Option SyntaxFault
  documents : List Word

namespace Word

/-- The text of a word in which nothing is quoted and nothing is replaced. -/
def plain? : Word → Option Octets
  | [] => some ""
  | .text text :: rest => (plain? rest).map (text ++ ·)
  | _ => none

/-- Puts an unquoted character before a word. -/
def push (c : Char) : Word → Word
  | .text text :: rest => .text (String.singleton c ++ text) :: rest
  | word => .text (String.singleton c) :: word

/-- A word without its quotes, if nothing in it is replaced, and whether any part is quoted. -/
def unquoted : Word → Octets × Bool
  | [] => ("", false)
  | .text text :: rest => (text ++ (unquoted rest).1, (unquoted rest).2)
  | .literal text :: rest => (text ++ (unquoted rest).1, true)
  | .quoted parts :: rest => ((unquoted parts).1 ++ (unquoted rest).1, true)
  | _ :: rest => unquoted rest

end Word

def isNameStart (c : Char) : Bool :=
  c.isAlpha || c == '_'

def isNameChar (c : Char) : Bool :=
  c.isAlphanum || c == '_'

def isName (text : String) : Bool :=
  text.toList.head?.any isNameStart && text.toList.all isNameChar

end TreeSchema.Script
