import TreeSchema.Text.Regex

/-!
Reading regular expressions. In the basic form groups, alternatives, repetition counts and the signs
for one and for at most one need a backslash; in the extended form they are plain and a backslash
takes their meaning away. A reader is strict or lenient with signs that have nothing to repeat.
-/

namespace TreeSchema.Text.Regex

inductive Fault where
  | unmatchedBracket
  | unmatchedParenthesis
  | unmatchedClosing
  | unmatchedBrace
  | invalidCount
  /-- A count whose least number is above its greatest one. -/
  | reversedCount
  | trailingBackslash
  | invalidReference
  | nothingToRepeat
  | invalidClass
  | reversedRange
  /-- A set that ends before its first member. -/
  | emptySet
  deriving DecidableEq, Repr

def Fault.message : Fault → String
  | unmatchedBracket => "Unmatched [, [^, [:, [., or [="
  | unmatchedParenthesis => "Unmatched ( or \\("
  | unmatchedClosing => "Unmatched ) or \\)"
  | unmatchedBrace => "Unmatched \\\x7b"
  | invalidCount | reversedCount => "Invalid content of \\\x7b\\\x7d"
  | trailingBackslash => "Trailing backslash"
  | invalidReference => "Invalid back reference"
  | nothingToRepeat => "Invalid preceding regular expression"
  | invalidClass => "Invalid character class name"
  | reversedRange => "Invalid range end"
  | emptySet => "Invalid regular expression"

/-- How expressions are written. -/
structure Form where
  extended : Bool
  /-- Whether a sign that has nothing to repeat is left out or stands for itself. -/
  lenient : Bool
  deriving DecidableEq, Repr

/-- What is left of an expression, and how many groups have been opened. -/
structure Source where
  text : List Char
  groups : Nat

abbrev Read := StateT Source (Except Fault)

/-! ### Sets -/

/-- The members of a set up to its closing bracket. -/
def readMembers : (fuel : Nat) → (first : Bool) → List Char →
    Except Fault (List (Char × Char) × List Char)
  | 0, _, _ | _, _, [] => .error .unmatchedBracket
  | fuel + 1, first, c :: rest =>
    if c = ']' && !first then .ok ([], rest)
    else
      let goOn (spans : List (Char × Char)) (rest : List Char) :
          Except Fault (List (Char × Char) × List Char) :=
        (readMembers fuel false rest).map fun (others, rest) => (spans ++ others, rest)
      match c, rest with
      | '[', ':' :: more =>
        match Wildcard.class? more with
        | some (spans, rest) => goOn spans rest
        | none => .error .invalidClass
      | '[', '.' :: c :: '.' :: ']' :: more | '[', '=' :: c :: '=' :: ']' :: more =>
        goOn [(c, c)] more
      | c, '-' :: ']' :: more => goOn [(c, c), ('-', '-')] (']' :: more)
      | c, '-' :: high :: more =>
        if high < c then .error .reversedRange else goOn [(c, high)] more
      | c, rest => goOn [(c, c)] rest

/-- The set after a bracket. -/
def readSet : Read Regex := do
  let source ← get
  let (negated, text) := match source.text with
    | '^' :: rest => (true, rest)
    | rest => (false, rest)
  if text.isEmpty then throw .emptySet
  match readMembers (text.length + 1) true text with
  | .error fault => throw fault
  | .ok (spans, rest) =>
    set { source with text := rest }
    return .oneOf negated spans

/-! ### Signs -/

/-- A sign of an expression. -/
inductive Sign where
  | opening
  | closing
  | bar
  | repetition (least : Nat) (most? : Option Nat)
  | brace
  | atom (regex : Regex)
  | start
  | stop
  | set
  | reference (number : Nat)

/-- What a character means after a backslash, where it means the same in both forms. -/
def escapeSign (c : Char) : Sign :=
  match c with
  | 'w' => .atom (.oneOf false [('0', '9'), ('A', 'Z'), ('_', '_'), ('a', 'z')])
  | 'W' => .atom (.oneOf true [('0', '9'), ('A', 'Z'), ('_', '_'), ('a', 'z')])
  | 's' => .atom (.oneOf false [('\t', '\x0d'), (' ', ' ')])
  | 'S' => .atom (.oneOf true [('\t', '\x0d'), (' ', ' ')])
  | '<' => .atom .wordStart
  | '>' => .atom .wordEnd
  | 'b' => .atom .wordEdge
  | 'B' => .atom .wordInside
  | '`' => .atom .lineStart
  | '\'' => .atom .lineEnd
  | c =>
    if '1' ≤ c && c ≤ '9' then .reference (c.toNat - '0'.toNat) else .atom (.char c)

/-- What a sign means that has a meaning in one form after a backslash and in the other without. -/
def formSign? (c : Char) : Option Sign :=
  match c with
  | '(' => some .opening
  | ')' => some .closing
  | '|' => some .bar
  | '+' => some (.repetition 1 none)
  | '?' => some (.repetition 0 (some 1))
  | '\x7b' => some .brace
  | _ => none

def plainSign (c : Char) : Sign :=
  match c with
  | '.' => .atom .anyChar
  | '*' => .repetition 0 none
  | '[' => .set
  | '^' => .start
  | '$' => .stop
  | c => .atom (.char c)

/-- The sign at the start of a text, and what is left. -/
def sign? (extended : Bool) : List Char → Except Fault (Option (Sign × List Char))
  | [] => .ok none
  | ['\\'] => .error .trailingBackslash
  | '\\' :: c :: rest =>
    .ok (some (((if extended then none else formSign? c).getD (escapeSign c)), rest))
  | c :: rest => .ok (some (((if extended then formSign? c else none).getD (plainSign c)), rest))

/-- The count that is asked for after an opening brace, up to the closing one. -/
def readCount (extended : Bool) (text : List Char) :
    Except Fault ((Nat × Option Nat) × List Char) :=
  let number (digits : List Char) : Nat := (String.ofList digits).toNat?.getD 0
  let low := text.takeWhile Char.isDigit
  let rest := text.drop low.length
  let (comma, rest) := match rest with
    | ',' :: rest => (true, rest)
    | rest => (false, rest)
  let high := if comma then rest.takeWhile Char.isDigit else []
  let rest := rest.drop high.length
  let rest? := match extended, rest with
    | true, '\x7d' :: rest => some rest
    | false, '\\' :: '\x7d' :: rest => some rest
    | _, _ => none
  match rest? with
  | none => .error (if rest.isEmpty then .unmatchedBrace else .invalidCount)
  | some rest =>
    if low.isEmpty && !comma then .error .invalidCount
    else
      let most? := if !comma then some (number low) else if high.isEmpty then none else some (number high)
      if most?.any (· < number low) then .error .reversedCount
      else .ok ((number low, most?), rest)

/-- Whether an expression of the basic form ends here, or one in parentheses or before a bar does. -/
def endsHere (text : List Char) : Bool :=
  match text with
  | [] | '\\' :: ')' :: _ | '\\' :: '|' :: _ => true
  | _ => false

section

variable (form : Form)

/-- Reads repetitions of an expression. -/
def readRepetitions : (fuel : Nat) → Regex → Read Regex
  | 0, regex => return regex
  | fuel + 1, regex => do
    let source ← get
    match sign? form.extended source.text with
    | .ok (some (.repetition least most?, rest)) =>
      set { source with text := rest }
      readRepetitions fuel (.repeated regex least most?)
    | .ok (some (.brace, rest)) =>
      match readCount form.extended rest with
      | .ok ((least, most?), rest) =>
        set { source with text := rest }
        readRepetitions fuel (.repeated regex least most?)
      | .error fault =>
        if form.extended && form.lenient && fault != .reversedCount then return regex
        else throw fault
    | _ => return regex

mutual

/-- Reads alternatives; a closing parenthesis after them is left. -/
def readEither : (fuel : Nat) → (inside : Bool) → Read Regex
  | 0, _ => return .empty
  | fuel + 1, inside => do
    let first ← readSequence fuel inside true
    let source ← get
    match sign? form.extended source.text with
    | .ok (some (.bar, rest)) =>
      set { source with text := rest }
      return .either first (← readEither fuel inside)
    | _ => return first

/-- Reads expressions that follow each other; `first` tells whether none has been read. -/
def readSequence : (fuel : Nat) → (inside first : Bool) → Read Regex
  | 0, _, _ => return .empty
  | fuel + 1, inside, first => do
    let source ← get
    match ← sign? form.extended source.text with
    | none | some (.bar, _) => return .empty
    | some (.closing, rest) =>
      if inside then return .empty
      else if form.extended && form.lenient then
        set { source with text := rest }
        readFollowing fuel inside (.char ')')
      else throw .unmatchedClosing
    | some (.opening, rest) =>
      let number := source.groups + 1
      set (⟨rest, number⟩ : Source)
      let body ← readEither fuel true
      let source ← get
      match sign? form.extended source.text with
      | .ok (some (.closing, rest)) =>
        set { source with text := rest }
        readFollowing fuel inside (.group number body)
      | _ => throw .unmatchedParenthesis
    | some (.start, rest) =>
      set { source with text := rest }
      if form.extended || first then
        return .sequence .lineStart (← readSequence fuel inside true)
      else readFollowing fuel inside (.char '^')
    | some (.stop, rest) =>
      set { source with text := rest }
      if form.extended || endsHere rest then readFollowing fuel inside .lineEnd
      else readFollowing fuel inside (.char '$')
    | some (.repetition least most?, rest) =>
      if first && (form.lenient || !form.extended) then
        set { source with text := rest }
        if form.extended then readSequence fuel inside true
        else
          readFollowing fuel inside (.char (if least = 1 then '+' else if most?.isSome then '?' else '*'))
      else throw .nothingToRepeat
    | some (.brace, rest) =>
      if first && !form.lenient then throw .nothingToRepeat
      set { source with text := rest }
      readFollowing fuel inside (.char '\x7b')
    | some (.set, rest) =>
      set { source with text := rest }
      readFollowing fuel inside (← readSet)
    | some (.reference number, rest) =>
      set { source with text := rest }
      if source.groups < number then throw .invalidReference
      readFollowing fuel inside (.same number)
    | some (.atom regex, rest) =>
      set { source with text := rest }
      readFollowing fuel inside regex

/-- Reads what follows an expression. -/
def readFollowing : (fuel : Nat) → (inside : Bool) → Regex → Read Regex
  | 0, _, regex => return regex
  | fuel + 1, inside, regex => do
    let regex ← readRepetitions form fuel regex
    return .sequence regex (← readSequence fuel inside false)

end

end

/-- Reads a whole expression; the answer also holds how many groups it has. -/
def ofText (form : Form) (text : Octets) : Except Fault (Regex × Nat) := do
  let (regex, source) ← (readEither form (4 * text.length + 8) false).run ⟨text.toList, 0⟩
  if source.text.isEmpty then return (regex, source.groups) else throw .unmatchedClosing

/-- The expression that stands for a text and nothing else. -/
def literal (text : Octets) : Regex :=
  text.toList.foldr (fun c regex => .sequence (.char c) regex) .empty

end TreeSchema.Text.Regex
