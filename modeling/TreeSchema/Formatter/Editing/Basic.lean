import TreeSchema.Text.Regex.Reading

/-!
Editing scripts. A script is a list of commands that is carried out for each line of a text. A
command is only carried out for the lines that its addresses select, and a branch goes on at a
mark.
-/

namespace TreeSchema.Editing

open Text (Octets Regex)

/-- An expression that is looked for. -/
structure Pattern where
  regex : Regex
  ignoreCase : Bool
  byLine : Bool
  deriving Repr

inductive Address where
  | line (number : Nat)
  /-- Every so many lines from a first one on. -/
  | step (first step : Nat)
  | last
  /-- The lines in which a pattern is found; without one the pattern that was used last counts. -/
  | pattern (pattern? : Option Pattern)
  deriving Repr

/-- Where a range of lines ends. -/
inductive Bound where
  | address (address : Address)
  /-- So many lines after the first one. -/
  | count (lines : Nat)
  /-- At a line whose number is a multiple. -/
  | multiple (divisor : Nat)
  deriving Repr

inductive Casing where
  | upper
  | lower
  deriving DecidableEq, Repr

/-- A part of what is put in place of a match. -/
inductive Piece where
  | text (text : Octets)
  /-- What a group has matched; group zero is the whole match. -/
  | group (number : Nat)
  /-- From here on letters have this case, or the one they come with. -/
  | casing (casing? : Option Casing)
  /-- The next letter has this case. -/
  | nextCasing (casing : Casing)
  deriving Repr

structure Substitution where
  pattern? : Option Pattern
  replacement : List Piece
  /-- The match that is replaced first, counted from one, and whether all after it are. -/
  number : Nat
  global : Bool
  prints : Bool
  target? : Option Octets
  deriving Repr

/-- When a branch is taken. -/
inductive Branch where
  | always
  | ifReplaced
  | unlessReplaced
  deriving DecidableEq, Repr

inductive Action where
  | opening
  | closing
  | mark (label : Octets)
  | branch (branch : Branch) (label : Octets)
  | append (text : Octets)
  | insert (text : Octets)
  | change (text : Octets)
  | delete
  | deleteFirst
  | print
  | printFirst
  | next
  | appendNext
  | hold
  | holdAppend
  | get
  | getAppend
  | exchange
  | clear
  | quit (prints : Bool) (status : Nat)
  | readFile (path : Octets)
  | readLine (path : Octets)
  | writeFile (path : Octets)
  | writeFirst (path : Octets)
  | list (width? : Option Nat)
  | lineNumber
  | fileName
  | substitute (substitution : Substitution)
  | replaceCharacters (pairs : List (Char × Char))
  | nothing
  deriving Repr

structure Command where
  first? : Option Address
  bound? : Option Bound
  negated : Bool
  action : Action
  deriving Repr

abbrev Script := List Command

/-- The commands after the one that closes what was opened before them. -/
def afterClosing : (depth : Nat) → List Command → (index : Nat) → Nat
  | _, [], index => index
  | depth, command :: rest, index =>
    match command.action, depth with
    | .closing, 0 => index + 1
    | .closing, depth + 1 => afterClosing depth rest (index + 1)
    | .opening, depth => afterClosing (depth + 1) rest (index + 1)
    | _, depth => afterClosing depth rest (index + 1)

/-- Where a branch goes on: at its mark, or at the end if it has no label. -/
def target? (script : Script) (label : Octets) : Option Nat :=
  if label.isEmpty then some script.length
  else script.findIdx? fun command =>
    match command.action with
    | .mark other => other == label
    | _ => false

/-- A label of a branch for which there is no mark. -/
def missingLabel? (script : Script) : Option Octets :=
  script.findSome? fun command =>
    match command.action with
    | .branch _ label => if (target? script label).isNone then some label else none
    | _ => none

/-- The files that a script writes. -/
def writtenFiles (script : Script) : List Octets :=
  (script.filterMap fun command =>
    match command.action with
    | .writeFile path | .writeFirst path => some path
    | .substitute substitution => substitution.target?
    | _ => none).eraseDups

/-- Why a script cannot be read. -/
inductive Fault where
  | unknownCommand (c : Char)
  | missingCommand
  | unterminatedAddress
  | unterminatedSubstitution
  | unterminatedReplacement
  | unexpectedComma
  | extraCharacters
  | unmatchedOpening
  | unexpectedClosing
  | closingWithAddress
  | labelWithAddress
  | commentWithAddress
  | secondAddress
  | missingLabel
  | missingText
  | missingFile
  | repeatedNegation
  | lineZero
  | relativeFirst
  | unknownOption
  | repeatedOption (option : Char)
  | repeatedNumber
  | zeroNumber
  | differentLengths
  | invalidReference (number : Nat)
  | noPreviousPattern
  | pattern (fault : Regex.Fault)
  deriving DecidableEq, Repr

def Fault.message : Fault → Octets
  | unknownCommand c => s!"unknown command: `{c}'"
  | missingCommand => "missing command"
  | unterminatedAddress => "unterminated address regex"
  | unterminatedSubstitution => "unterminated `s' command"
  | unterminatedReplacement => "unterminated `y' command"
  | unexpectedComma => "unexpected `,'"
  | extraCharacters => "extra characters after command"
  | unmatchedOpening => "unmatched `\x7b'"
  | unexpectedClosing => "unexpected `\x7d'"
  | closingWithAddress => "`\x7d' doesn't want any addresses"
  | labelWithAddress => ": doesn't want any addresses"
  | commentWithAddress => "comments don't accept any addresses"
  | secondAddress => "command only uses one address"
  | missingLabel => "\":\" lacks a label"
  | missingText => "expected \\ after `a', `c' or `i'"
  | missingFile => "missing filename in r/R/w/W commands"
  | repeatedNegation => "multiple `!'s"
  | lineZero => "invalid usage of line address 0"
  | relativeFirst => "invalid usage of +N or ~N as first address"
  | unknownOption => "unknown option to `s'"
  | repeatedOption c => s!"multiple `{c}' options to `s' command"
  | repeatedNumber => "multiple number options to `s' command"
  | zeroNumber => "number option to `s' command may not be zero"
  | differentLengths => "strings for `y' command are different lengths"
  | invalidReference number => s!"invalid reference \\{number} on `s' command's RHS"
  | noPreviousPattern => "no previous regular expression"
  | pattern fault => fault.message

end TreeSchema.Editing
