import TreeSchema.Formatter.Editing.Basic

/-!
Reading editing scripts. Commands end at line breaks and semicolons, but what is appended, inserted
or changed to reaches to the end of its line.
-/

namespace TreeSchema.Editing

open Text (Octets Regex)

/-- What is left of a script, and how many characters have been read. -/
structure Source where
  text : List Char
  read : Nat

/-- A reader that can fail at a place. -/
abbrev Read := StateT Source (Except (Nat × Fault))

namespace Read

def fail {α : Type} (fault : Fault) : Read α := do
  throw ((← get).read, fault)

def peek : Read (Option Char) := do
  return (← get).text.head?

def next : Read (Option Char) :=
  modifyGet fun source =>
    match source.text with
    | c :: rest => (some c, ⟨rest, source.read + 1⟩)
    | [] => (none, source)

def takeWhile (holds : Char → Bool) : Read (List Char) :=
  modifyGet fun source =>
    let taken := source.text.takeWhile holds
    (taken, ⟨source.text.drop taken.length, source.read + taken.length⟩)

end Read

def isBlank (c : Char) : Bool :=
  c == ' ' || c == '\t'

def skipBlanks : Read Unit :=
  discard (Read.takeWhile isBlank)

def readNumber? : Read (Option Nat) := do
  return (String.ofList (← Read.takeWhile Char.isDigit)).toNat?

/-- The rest of a line without the line break. -/
def readLine : Read Octets := do
  let line ← Read.takeWhile (· != '\n')
  discard Read.next
  return String.ofList line

/-! ### Parts between delimiters -/

/-- How many characters there are up to the end of a set of characters; a class in it has brackets of
its own. -/
def lengthToSetEnd : (fuel : Nat) → List Char → Nat
  | 0, _ | _, [] => 0
  | fuel + 1, '[' :: sign :: rest =>
    if [':', '.', '='].contains sign then
      let body := (rest.zip rest.tail).takeWhile (· != (sign, ']'))
      let size := body.length + 4
      size + lengthToSetEnd fuel (rest.drop (size - 2))
    else 1 + lengthToSetEnd fuel (sign :: rest)
  | _, ']' :: _ => 1
  | fuel + 1, _ :: rest => 1 + lengthToSetEnd fuel rest

/-- How many characters a set has after its opening bracket. -/
def setLength (text : List Char) : Nat :=
  let negation := (text.take 1).takeWhile (· == '^')
  let first := ((text.drop negation.length).take 1).takeWhile (· == ']')
  let start := negation.length + first.length
  start + lengthToSetEnd text.length (text.drop start)

/-- The text before a delimiter. A backslash takes the meaning away from it, and so does a set of
characters in a pattern; a line break only stands in the text after a backslash. -/
def delimited? (delimiter : Char) (inPattern : Bool) :
    (fuel : Nat) → List Char → (taken : List Char) → (read : Nat) →
      Option (List Char) × List Char × Nat
  | 0, rest, _, read => (none, rest, read)
  | _, [], _, read => (none, [], read)
  | fuel + 1, '\\' :: c :: rest, taken, read =>
    let taken :=
      if c = 'n' && inPattern && delimiter != 'n' then '\n' :: taken
      else if c = '\n' then c :: taken
      else if c = delimiter && (inPattern || c != '&') then c :: taken
      else c :: '\\' :: taken
    delimited? delimiter inPattern fuel rest taken (read + 2)
  | fuel + 1, c :: rest, taken, read =>
    if c = delimiter then (some taken.reverse, rest, read + 1)
    else if c = '\n' then (none, c :: rest, read)
    else
      let size := if c = '[' && inPattern then setLength rest else 0
      delimited? delimiter inPattern fuel (rest.drop size)
        ((rest.take size).reverse ++ c :: taken) (read + 1 + size)

def readDelimited (delimiter : Char) (inPattern : Bool) (fault : Fault) : Read (List Char) := do
  let source ← get
  let (text?, rest, read) := delimited? delimiter inPattern (source.text.length + 1) source.text [] source.read
  set (⟨rest, read⟩ : Source)
  match text? with
  | some text => return text
  | none => Read.fail fault

/-- The character that a letter stands for after a backslash. -/
def escapedChar? : Char → Option Char
  | 'a' => some '\x07'
  | 'f' => some '\x0c'
  | 'n' => some '\n'
  | 'r' => some '\r'
  | 't' => some '\t'
  | 'v' => some '\x0b'
  | _ => none

def hexValue? (c : Char) : Option Nat :=
  if c.isDigit then some (c.toNat - '0'.toNat)
  else if 'a' ≤ c.toLower && c.toLower ≤ 'f' then some (c.toLower.toNat - 'a'.toNat + 10)
  else none

/-- The character of a number after a backslash and a letter, in base sixteen, ten or eight, and what
is left after it. -/
def numberedChar? (letter : Char) (rest : List Char) : Option (Char × List Char) :=
  let (base, size) := match letter with
    | 'x' => (16, 2)
    | 'd' => (10, 3)
    | 'o' => (8, 3)
    | _ => (0, 0)
  let digits := (rest.take size).takeWhile fun c => (hexValue? c).any (· < base)
  if digits.isEmpty then none
  else
    let value := digits.foldl (fun value c => value * base + (hexValue? c).getD 0) 0
    some (Char.ofNat (value % 256), rest.drop digits.length)

/-- The text of an expression with the characters that are written as letters or numbers. -/
def unescapePattern : (fuel : Nat) → List Char → List Char
  | 0, text => text
  | fuel + 1, '\\' :: c :: rest =>
    match escapedChar? c, numberedChar? c rest with
    | some escaped, _ => escaped :: unescapePattern fuel rest
    | none, some (escaped, rest) =>
      if "*.[]^$\\/+?()\x7b\x7d|".toList.contains escaped then
        '\\' :: escaped :: unescapePattern fuel rest
      else escaped :: unescapePattern fuel rest
    | none, none => '\\' :: c :: unescapePattern fuel rest
  | fuel + 1, c :: rest => c :: unescapePattern fuel rest
  | _, [] => []

/-- The pattern of an expression and how many groups it has; an empty one stands for the last. -/
def readPattern (extended : Bool) (text : List Char) (ignoreCase byLine : Bool) :
    Read (Option (Pattern × Nat)) := do
  if text.isEmpty then return none
  match Regex.ofText ⟨extended, false⟩ (String.ofList (unescapePattern text.length text)) with
  | .ok (regex, groups) => return some (⟨regex, ignoreCase, byLine⟩, groups)
  | .error fault => Read.fail (.pattern fault)

/-! ### Addresses -/

/-- Reads letters that say how a pattern is looked for. -/
def readPatternFlags : (fuel : Nat) → (ignoreCase byLine : Bool) → Read (Bool × Bool)
  | 0, ignoreCase, byLine => return (ignoreCase, byLine)
  | fuel + 1, ignoreCase, byLine => do
    skipBlanks
    match ← Read.peek with
    | some 'I' =>
      discard Read.next
      readPatternFlags fuel true byLine
    | some 'M' =>
      discard Read.next
      readPatternFlags fuel ignoreCase true
    | _ => return (ignoreCase, byLine)

def readPatternAddress (extended : Bool) (delimiter : Char) : Read Address := do
  let text ← readDelimited delimiter true .unterminatedAddress
  let (ignoreCase, byLine) ← readPatternFlags (← get).text.length false false
  let pattern? ← readPattern extended text ignoreCase byLine
  return .pattern (pattern?.map (·.1))

def readAddress? (extended : Bool) : Read (Option Address) := do
  match ← Read.peek with
  | some '/' =>
    discard Read.next
    return some (← readPatternAddress extended '/')
  | some '\\' =>
    discard Read.next
    match ← Read.next with
    | some delimiter => return some (← readPatternAddress extended delimiter)
    | none => Read.fail .unterminatedAddress
  | some '$' =>
    discard Read.next
    return some .last
  | some c =>
    if c.isDigit then
      let number := (← readNumber?).getD 0
      skipBlanks
      if (← Read.peek) = some '~' then
        discard Read.next
        skipBlanks
        let step := (← readNumber?).getD 0
        return some (if step = 0 then .line number else .step number step)
      else return some (.line number)
    else return none
  | none => return none

def readBound (extended : Bool) : Read Bound := do
  let relative (bound : Nat → Bound) : Read Bound := do
    discard Read.next
    skipBlanks
    return bound ((← readNumber?).getD 0)
  match ← Read.peek with
  | some '+' => relative .count
  | some '~' => relative .multiple
  | _ =>
    match ← readAddress? extended with
    | some address => return .address address
    | none =>
      if (← Read.peek).isSome then discard Read.next
      Read.fail .unexpectedComma

/-! ### Commands -/

/-- What ends a command; a brace or a comment is left. -/
def readEnd : Read Unit := do
  skipBlanks
  match ← Read.peek with
  | none | some '\x7d' | some '#' => return ()
  | some c =>
    discard Read.next
    unless c = '\n' || c = ';' do Read.fail .extraCharacters

/-- The characters of a label, up to a blank, a semicolon or a brace. -/
def readLabel : Read Octets := do
  skipBlanks
  return String.ofList (← Read.takeWhile fun c => !c.isWhitespace && c != ';' && c != '\x7d')

def readPath : Read Octets := do
  skipBlanks
  let path ← readLine
  if path.isEmpty then Read.fail .missingFile else return path

/-- The text up to the end of a line that does not end in a backslash. -/
def textOf : List Char → (taken : List Char) → (read : Nat) → List Char × List Char × Nat
  | [], taken, read | ['\\'], taken, read => (taken.reverse, [], read)
  | '\\' :: c :: rest, taken, read => textOf rest ((escapedChar? c).getD c :: taken) (read + 2)
  | '\n' :: rest, taken, read => (taken.reverse, rest, read + 1)
  | c :: rest, taken, read => textOf rest (c :: taken) (read + 1)

/-- What a command appends, inserts or changes to: it starts after blanks, or after a backslash and
the line break that may follow it. -/
def readText : Read Octets := do
  skipBlanks
  match ← Read.peek with
  | none => Read.fail .missingText
  | some c =>
    if c = '\\' then
      discard Read.next
      if (← Read.peek) = some '\n' then discard Read.next
    let source ← get
    if source.text.isEmpty then return ""
    let (text, rest, read) := textOf source.text [] source.read
    set (⟨rest, read⟩ : Source)
    return String.ofList text ++ "\n"

/-- The parts of a replacement. -/
def piecesOf : (fuel : Nat) → List Char → List Piece
  | 0, _ | _, [] => []
  | fuel + 1, '&' :: rest => .group 0 :: piecesOf fuel rest
  | fuel + 1, '\\' :: c :: rest =>
    let literal (c : Char) (rest : List Char) : List Piece :=
      .text (String.singleton c) :: piecesOf fuel rest
    match c with
    | 'U' => .casing (some .upper) :: piecesOf fuel rest
    | 'L' => .casing (some .lower) :: piecesOf fuel rest
    | 'E' => .casing none :: piecesOf fuel rest
    | 'u' => .nextCasing .upper :: piecesOf fuel rest
    | 'l' => .nextCasing .lower :: piecesOf fuel rest
    | c =>
      if c.isDigit then .group (c.toNat - '0'.toNat) :: piecesOf fuel rest
      else
        match escapedChar? c, numberedChar? c rest with
        | some escaped, _ => literal escaped rest
        | none, some (escaped, rest) => literal escaped rest
        | none, none => literal c rest
  | fuel + 1, c :: rest => .text (String.singleton c) :: piecesOf fuel rest

/-- What follows a substitution. -/
structure SubstitutionFlags where
  ignoreCase : Bool
  byLine : Bool
  global : Bool
  prints : Bool
  number? : Option Nat
  target? : Option Octets

def readSubstitutionFlags : (fuel : Nat) → SubstitutionFlags → Read SubstitutionFlags
  | 0, flags => return flags
  | fuel + 1, flags => do
    match ← Read.peek with
    | none | some '\x7d' | some '#' => return flags
    | some c =>
      if c.isDigit then
        if flags.number?.isSome then
          discard Read.next
          Read.fail .repeatedNumber
        let number := (← readNumber?).getD 0
        if number = 0 then Read.fail .zeroNumber
        readSubstitutionFlags fuel { flags with number? := some number }
      else
        discard Read.next
        match c with
        | '\n' | ';' => return flags
        | 'i' | 'I' => readSubstitutionFlags fuel { flags with ignoreCase := true }
        | 'm' | 'M' => readSubstitutionFlags fuel { flags with byLine := true }
        | 'e' | ' ' => readSubstitutionFlags fuel flags
        | 'g' =>
          if flags.global then Read.fail (.repeatedOption c)
          readSubstitutionFlags fuel { flags with global := true }
        | 'p' =>
          if flags.prints then Read.fail (.repeatedOption c)
          readSubstitutionFlags fuel { flags with prints := true }
        | 'w' => return { flags with target? := some (← readPath) }
        | _ => Read.fail .unknownOption

/-- The greatest group that a replacement asks for. -/
def greatestGroup (pieces : List Piece) : Nat :=
  pieces.foldl (fun most piece =>
    match piece with
    | .group number => max most number
    | _ => most) 0

def readSubstitution (extended : Bool) : Read Action := do
  match ← Read.next with
  | none => Read.fail .unterminatedSubstitution
  | some delimiter =>
    let text ← readDelimited delimiter true .unterminatedSubstitution
    let replacement ← readDelimited delimiter false .unterminatedSubstitution
    let pieces := piecesOf replacement.length replacement
    let flags ← readSubstitutionFlags ((← get).text.length + 1)
      ⟨false, false, false, false, none, none⟩
    let pattern? ← readPattern extended text flags.ignoreCase flags.byLine
    match pattern? with
    | some (_, groups) =>
      if groups < greatestGroup pieces then Read.fail (.invalidReference (greatestGroup pieces))
    | none => pure ()
    return .substitute {
      pattern? := pattern?.map (·.1)
      replacement := pieces
      number := flags.number?.getD 1
      global := flags.global
      prints := flags.prints
      target? := flags.target? }

/-- The characters of one side of a replacement of characters. -/
def replacedChars : List Char → List Char
  | '\\' :: c :: rest => (escapedChar? c).getD c :: replacedChars rest
  | c :: rest => c :: replacedChars rest
  | [] => []

def readReplacement : Read Action := do
  match ← Read.next with
  | none => Read.fail .unterminatedReplacement
  | some delimiter =>
    let source ← readDelimited delimiter false .unterminatedReplacement
    let target ← readDelimited delimiter false .unterminatedReplacement
    let source := replacedChars source
    let target := replacedChars target
    if source.length != target.length then Read.fail .differentLengths
    readEnd
    return .replaceCharacters (source.zip target)

/-- The commands that are a letter and nothing else. -/
def plainAction? : Char → Option Action
  | '=' => some .lineNumber
  | 'd' => some .delete
  | 'D' => some .deleteFirst
  | 'F' => some .fileName
  | 'g' => some .get
  | 'G' => some .getAppend
  | 'h' => some .hold
  | 'H' => some .holdAppend
  | 'n' => some .next
  | 'N' => some .appendNext
  | 'p' => some .print
  | 'P' => some .printFirst
  | 'x' => some .exchange
  | 'z' => some .clear
  | _ => none

/-- Reads what follows the letter of a command with `addresses` addresses. -/
def readAction (extended : Bool) (addresses depth : Nat) (letter : Char) : Read Action := do
  match letter with
  | '\x7b' => return .opening
  | '\x7d' =>
    if depth = 0 then Read.fail .unexpectedClosing
    if addresses > 0 then Read.fail .closingWithAddress
    readEnd
    return .closing
  | '#' =>
    if addresses > 0 then Read.fail .commentWithAddress
    discard readLine
    return .nothing
  | ':' =>
    if addresses > 0 then Read.fail .labelWithAddress
    let label ← readLabel
    if label.isEmpty then Read.fail .missingLabel
    return .mark label
  | 'b' => return .branch .always (← readLabel)
  | 't' => return .branch .ifReplaced (← readLabel)
  | 'T' => return .branch .unlessReplaced (← readLabel)
  | 'v' =>
    discard readLabel
    return .nothing
  | 'a' => return .append (← readText)
  | 'i' => return .insert (← readText)
  | 'c' => return .change (← readText)
  | 'q' | 'Q' =>
    if addresses > 1 then Read.fail .secondAddress
    skipBlanks
    let status := (← readNumber?).getD 0
    readEnd
    return .quit (letter == 'q') status
  | 'l' =>
    skipBlanks
    let width? ← readNumber?
    readEnd
    return .list width?
  | 'r' => return .readFile (← readPath)
  | 'R' => return .readLine (← readPath)
  | 'w' => return .writeFile (← readPath)
  | 'W' => return .writeFirst (← readPath)
  | 's' => readSubstitution extended
  | 'y' => readReplacement
  | letter =>
    match plainAction? letter with
    | some action =>
      readEnd
      return action
    | none => Read.fail (.unknownCommand letter)

/-- Reads a command inside of `depth` braces, or nothing at the end of the script. -/
def readCommand? (extended : Bool) (depth : Nat) : Read (Option Command) := do
  discard (Read.takeWhile fun c => c.isWhitespace || c == ';')
  if (← Read.peek).isNone then return none
  if (← Read.peek) = some '+' || (← Read.peek) = some '~' then
    discard Read.next
    discard readNumber?
    Read.fail .relativeFirst
  let first? ← readAddress? extended
  skipBlanks
  let bound? ← if first?.isSome && (← Read.peek) = some ',' then
      discard Read.next
      skipBlanks
      pure (some (← readBound extended))
    else pure none
  skipBlanks
  let startsAtZero := match first?, bound? with
    | some (.line 0), some (.address (.pattern _)) => false
    | some (.line 0), _ => true
    | _, _ => false
  if startsAtZero then
    discard Read.next
    Read.fail .lineZero
  let negated := (← Read.peek) = some '!'
  if negated then
    discard Read.next
    skipBlanks
    if (← Read.peek) = some '!' then
      discard Read.next
      Read.fail .repeatedNegation
  match ← Read.next with
  | none => Read.fail .missingCommand
  | some letter =>
    let addresses := (if first?.isSome then 1 else 0) + (if bound?.isSome then 1 else 0)
    return some ⟨first?, bound?, negated, ← readAction extended addresses depth letter⟩

/-- Reads commands; `opened` holds the places of the braces that are open. -/
def readCommands (extended : Bool) : (fuel : Nat) → (opened : List Nat) → Read Script
  | 0, _ => return []
  | fuel + 1, opened => do
    match ← readCommand? extended opened.length with
    | none =>
      match opened with
      | place :: _ => throw (place, .unmatchedOpening)
      | [] => return []
    | some command =>
      let place := (← get).read
      let opened := match command.action with
        | .opening => place :: opened
        | .closing => opened.drop 1
        | _ => opened
      return command :: (← readCommands extended fuel opened)

/-- Reads a whole script; the error has the number of characters that were read before it. -/
def Script.read (extended : Bool) (text : Octets) : Except (Nat × Fault) Script :=
  (·.1) <$> (readCommands extended (text.length + 1) []).run ⟨text.toList, 0⟩

end TreeSchema.Editing
