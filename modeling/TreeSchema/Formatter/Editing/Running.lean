import TreeSchema.Formatter.Editing.Basic

/-!
Carrying out editing scripts. The commands work on a pattern space, which holds the line that was
read, and on a hold space, which is kept from line to line.
-/

namespace TreeSchema.Editing

open Text (Octets Regex)

/-- A text, and whether the end of a line follows it. -/
structure Line where
  text : Octets
  ended : Bool

/-- What has been written, last text first, and whether the end of a line is missing. -/
structure Output where
  /-- What ends a line. -/
  separator : Octets
  texts : List Octets
  unended : Bool

namespace Output

def empty (separator : Octets) : Output := ⟨separator, [], false⟩

def text (output : Output) : Octets :=
  String.join output.texts.reverse

/-- Writes a text after the end of a line that is missing. -/
def write (output : Output) (text : Octets) : Output :=
  { output with
    texts := text :: (if output.unended then output.separator :: output.texts else output.texts)
    unended := false }

def writeLine (output : Output) (line : Line) : Output :=
  { output.write (if line.ended then line.text ++ output.separator else line.text) with
    unended := !line.ended }

end Output

/-- What is written after the line that is worked on. -/
inductive Queued where
  | text (text : Octets)
  | line (line : Line)

/-- Where a range of lines ends, or that it has ended. -/
inductive Range where
  | untilLine (number : Nat)
  | untilMatch
  | closed
  deriving DecidableEq

structure Editor where
  /-- What lines are separated by. -/
  separator : Octets
  pattern : Line
  hold : Line
  /-- The name of the file and the lines of it and of those after it that have not been read. -/
  rest : List (Octets × Line)
  name : Octets
  number : Nat
  /-- Whether something has been replaced since a line was read or a branch was taken. -/
  replaced : Bool
  /-- The ranges of commands, by their places. -/
  ranges : List (Nat × Range)
  lastPattern? : Option Pattern
  queued : List Queued
  output : Output
  /-- The files that are written. -/
  files : List (Octets × Output)
  /-- The lines that have not been read of files that are read line by line. -/
  sources : List (Octets × List Line)

/-- How a script is carried out. -/
structure Settings where
  script : Script
  /-- Whether lines are printed when the end of the script is reached. -/
  prints : Bool
  width : Nat
  readFile? : Octets → Option Octets

abbrev Edit := StateM Editor

/-- Where a script goes on. -/
inductive Next where
  | at (index : Nat)
  /-- With the next line, after the one that was worked on has been printed or without that. -/
  | cycle (prints : Bool)
  /-- At the start, with what is left of the lines that were read. -/
  | again
  | quit (status : Nat) (prints : Bool)
  | fault

/-- The lines of a text. -/
def linesOf (separator text : Octets) : List Line :=
  let parts := text.splitOn separator
  parts.dropLast.map (⟨·, true⟩) ++
    ((parts.getLast?.filter (!·.isEmpty)).map (⟨·, false⟩)).toList

/-! ### Addresses -/

/-- The pattern that is asked for, which is from now on the last one that was used. -/
def usePattern? (pattern? : Option Pattern) : Edit (Option Pattern) :=
  modifyGet fun editor =>
    let pattern? := pattern?.or editor.lastPattern?
    (pattern?, { editor with lastPattern? := pattern? })

def Pattern.subject (pattern : Pattern) (text : Octets) : Regex.Subject :=
  ⟨text.toList.toArray, pattern.ignoreCase, pattern.byLine⟩

/-- Whether an address selects the line; nothing if there is no last pattern. -/
def selects? (address : Address) : Edit (Option Bool) := do
  let editor ← get
  match address with
  | .line number => return some (editor.number == number)
  | .step first step => return some (first ≤ editor.number && (editor.number - first) % step == 0)
  | .last => return some editor.rest.isEmpty
  | .pattern pattern? =>
    match ← usePattern? pattern? with
    | some pattern =>
      return some (pattern.regex.search? (pattern.subject editor.pattern.text) 0).isSome
    | none => return none

def setRange (index : Nat) (range : Range) : Edit Unit :=
  modify fun editor =>
    { editor with ranges := (index, range) :: editor.ranges.filter (·.1 != index) }

/-- Starts a range at the line; one whose end is not after it has this line only. -/
def startRange (index : Nat) (first : Address) (bound : Bound) : Edit Bool := do
  let number := (← get).number
  let startLine? := match first with
    | .line line => some line
    | _ => none
  let untilLine (last : Nat) : Edit Bool := do
    setRange index (if last ≤ number then .closed else .untilLine last)
    return startLine?.all fun line => line = number || number ≤ last
  match bound with
  | .address (.line last) => untilLine last
  | .count lines => untilLine (number + lines)
  | .multiple divisor =>
    untilLine (if divisor = 0 then number else (number + divisor - 1) / divisor * divisor)
  | .address _ =>
    setRange index .untilMatch
    return true

/-- Whether the line starts a range: a range from a line number on starts once, at that line or the
first one that is seen after it. -/
def startsRange? (index : Nat) (first : Address) : Edit (Option Bool) := do
  let editor ← get
  match first with
  | .line number =>
    return some (editor.ranges.lookup index != some .closed && number ≤ editor.number)
  | first => selects? first

/-- Whether a command is carried out for the line. -/
def isSelected? (index : Nat) (command : Command) : Edit (Option Bool) := do
  match command.first?, command.bound? with
  | none, _ => return some true
  | some address, none => selects? address
  | some first, some bound =>
    let atZero := match first with
      | .line 0 => true
      | _ => false
    let range? := (← get).ranges.lookup index
    let range? := if atZero && range?.isNone then some .untilMatch else range?
    match range?, bound with
    | some (.untilLine last), _ =>
      let number := (← get).number
      if last ≤ number then setRange index .closed
      return some (number ≤ last)
    | some .untilMatch, .address address =>
      match ← selects? address with
      | some ends =>
        if ends then setRange index .closed
        return some true
      | none => return none
    | _, bound =>
      match ← startsRange? index first with
      | some true => return some (← startRange index first bound)
      | other => return other

/-! ### Substitutions -/

def Casing.apply : Casing → Char → Char
  | .upper, c => c.toUpper
  | .lower, c => c.toLower

/-- Puts letters in the case that is asked for; `once?` holds for the first character only. -/
def applyCasing (casing? once? : Option Casing) : List Char → List Char
  | [] => []
  | c :: rest =>
    let with? (casing? : Option Casing) (c : Char) : Char := (casing?.map (·.apply c)).getD c
    with? (once?.or casing?) c :: rest.map (with? casing?)

/-- The text of a replacement for a match. -/
def replacementText (line : Array Char) (found : Regex.Match) :
    List Piece → (casing? once? : Option Casing) → List Char
  | [], _, _ => []
  | piece :: rest, casing?, once? =>
    let put (text : List Char) : List Char :=
      if text.isEmpty then replacementText line found rest casing? once?
      else applyCasing casing? once? text ++ replacementText line found rest casing? none
    match piece with
    | .text text => put text.toList
    | .group 0 => put (line.extract found.start found.stop).toList
    | .group number =>
      match found.groups.lookup number with
      | some (start, stop) => put (line.extract start stop).toList
      | none => replacementText line found rest casing? once?
    | .casing casing? => replacementText line found rest casing? once?
    | .nextCasing casing => replacementText line found rest casing? (some casing)

/-- Replaces matches from a place on. An empty match does not count right after another one. `count`
is how many have been found; the answer also tells whether any has been replaced. -/
def replaceFrom (pattern : Pattern) (subject : Regex.Subject) (substitution : Substitution) :
    (fuel : Nat) → (start count : Nat) → (lastStop? : Option Nat) → List Char × Bool
  | 0, start, _, _ => ((subject.characters.extract start subject.characters.size).toList, false)
  | fuel + 1, start, count, lastStop? =>
    let line := subject.characters
    match pattern.regex.search? subject start with
    | none => ((line.extract start line.size).toList, false)
    | some found =>
      let before := (line.extract start found.start).toList
      let isEmpty := found.start = found.stop
      let after := if isEmpty then (line.extract found.stop (found.stop + 1)).toList else []
      let goOn (count : Nat) : List Char × Bool :=
        if isEmpty && line.size ≤ found.stop then ([], false)
        else
          replaceFrom pattern subject substitution fuel
            (if isEmpty then found.stop + 1 else found.stop) count (some found.stop)
      if isEmpty && lastStop? = some found.start then
        let (rest, replaced) := goOn count
        (before ++ after ++ rest, replaced)
      else if count + 1 < substitution.number then
        let (rest, replaced) := goOn (count + 1)
        (before ++ (line.extract found.start found.stop).toList ++ after ++ rest, replaced)
      else
        let text := replacementText line found substitution.replacement none none
        if substitution.global then
          (before ++ text ++ after ++ (goOn (count + 1)).1, true)
        else
          (before ++ text ++ (line.extract found.stop line.size).toList, true)

/-! ### Commands -/

def write (text : Octets) : Edit Unit :=
  modify fun editor => { editor with output := editor.output.write text }

def writeLine (line : Line) : Edit Unit :=
  modify fun editor => { editor with output := editor.output.writeLine line }

/-- Writes a line to a file of the script. -/
def writeLineTo (path : Octets) (line : Line) : Edit Unit :=
  if path = "/dev/stdout" then writeLine line
  else
    modify fun editor =>
      let output := (editor.files.lookup path).getD (.empty editor.separator)
      { editor with
        files := editor.files.map fun (other, text) =>
          if other = path then (other, output.writeLine line) else (other, text) }

def setText (text : Octets) : Edit Unit :=
  modify fun editor => { editor with pattern := { editor.pattern with text } }

def enqueue (queued : Queued) : Edit Unit :=
  modify fun editor => { editor with queued := editor.queued ++ [queued] }

/-- Writes what is to be written after the line. -/
def flush : Edit Unit := do
  for queued in (← get).queued do
    match queued with
    | .text text => write text
    | .line line => writeLine line
  modify fun editor => { editor with queued := [] }

/-- Reads the next line, by itself or after what is in the pattern space. -/
def readNext (appends : Bool) : Edit Bool := do
  match (← get).rest with
  | [] => return false
  | (name, line) :: rest =>
    flush
    modify fun editor =>
      let pattern :=
        if appends then { line with text := editor.pattern.text ++ editor.separator ++ line.text } else line
      { editor with pattern, rest, name, number := editor.number + 1, replaced := false }
    return true

/-- The part of a line before the first separator. -/
def firstLine (separator : Octets) (line : Line) : Line :=
  match line.text.splitOn separator with
  | first :: _ :: _ => ⟨first, true⟩
  | _ => line

/-- How a character is listed. -/
def listed (c : Char) : Octets :=
  match c with
  | '\\' => "\\\\"
  | '\x07' => "\\a"
  | '\x08' => "\\b"
  | '\x0c' => "\\f"
  | '\n' => "\\n"
  | '\r' => "\\r"
  | '\t' => "\\t"
  | '\x0b' => "\\v"
  | c =>
    if 32 ≤ c.toNat && c.toNat < 127 then String.singleton c
    else
      let digits := String.ofList (Nat.toDigits 8 c.toNat)
      "\\" ++ String.ofList (List.replicate (3 - digits.length) '0') ++ digits

/-- A text as it is listed, in lines that are at most so wide. -/
def listing (width : Nat) (text : Octets) : Octets :=
  let (lines, _) := text.toList.foldl (fun (shown, column) c =>
    let part := listed c
    if width > 0 && column + part.length > width - 1 then
      (shown ++ "\\\n" ++ part, part.length)
    else (shown ++ part, column + part.length)) ("", 0)
  lines ++ "$\n"

def substitute (substitution : Substitution) (index : Nat) : Edit Next := do
  match ← usePattern? substitution.pattern? with
  | none => return .fault
  | some pattern =>
    let text := (← get).pattern.text
    let (edited, replaced) :=
      replaceFrom pattern (pattern.subject text) substitution (text.length + 2) 0 0 none
    if replaced then
      setText (String.ofList edited)
      modify fun editor => { editor with replaced := true }
      let line := (← get).pattern
      if substitution.prints then writeLine line
      if let some path := substitution.target? then writeLineTo path line
    return .at (index + 1)

section

variable (settings : Settings)

/-- Queues the next line of a file. -/
def queueLine (path : Octets) : Edit Unit := do
  let lines := ((← get).sources.lookup path).getD
    (linesOf (← get).separator ((settings.readFile? path).getD ""))
  match lines with
  | [] => return ()
  | line :: rest =>
    enqueue (.line { line with ended := true })
    modify fun editor =>
      { editor with sources := (path, rest) :: editor.sources.filter (·.1 != path) }

/-- Carries out the command at a place. -/
def perform (index : Nat) (command : Command) : Edit Next := do
  let editor ← get
  let following : Next := .at (index + 1)
  let jump (label : Octets) : Next :=
    .at ((target? settings.script label).getD settings.script.length)
  match command.action with
  | .opening | .closing | .mark _ | .nothing => return following
  | .branch .always label => return jump label
  | .branch .ifReplaced label =>
    set { editor with replaced := false }
    return if editor.replaced then jump label else following
  | .branch .unlessReplaced label =>
    set { editor with replaced := false }
    return if editor.replaced then following else jump label
  | .append text =>
    enqueue (.text text)
    return following
  | .insert text =>
    unless text.isEmpty do write text
    return following
  | .change text =>
    let inRange := match editor.ranges.lookup index with
      | some (.untilLine _) | some .untilMatch => command.bound?.isSome && !command.negated
      | _ => false
    unless inRange || text.isEmpty do write text
    return .cycle false
  | .delete => return .cycle false
  | .deleteFirst =>
    match editor.pattern.text.splitOn editor.separator with
    | _ :: second :: rest =>
      setText (editor.separator.intercalate (second :: rest))
      return .again
    | _ => return .cycle false
  | .print =>
    writeLine editor.pattern
    return following
  | .printFirst =>
    writeLine (firstLine editor.separator editor.pattern)
    return following
  | .next =>
    if editor.rest.isEmpty then return .cycle true
    if settings.prints then writeLine editor.pattern
    discard (readNext false)
    return following
  | .appendNext => return if ← readNext true then following else .cycle true
  | .hold =>
    set { editor with hold := editor.pattern }
    return following
  | .holdAppend =>
    let text := editor.hold.text ++ editor.separator ++ editor.pattern.text
    set { editor with hold := { editor.pattern with text } }
    return following
  | .get =>
    set { editor with pattern := editor.hold }
    return following
  | .getAppend =>
    let text := editor.pattern.text ++ editor.separator ++ editor.hold.text
    set { editor with pattern := { editor.hold with text } }
    return following
  | .exchange =>
    set { editor with pattern := editor.hold, hold := editor.pattern }
    return following
  | .clear =>
    setText ""
    return following
  | .quit prints status => return .quit status prints
  | .readFile path =>
    enqueue (.text ((settings.readFile? path).getD ""))
    return following
  | .readLine path =>
    queueLine settings path
    return following
  | .writeFile path =>
    writeLineTo path editor.pattern
    return following
  | .writeFirst path =>
    writeLineTo path (firstLine editor.separator editor.pattern)
    return following
  | .list width? =>
    write (listing (width?.getD settings.width) editor.pattern.text)
    return following
  | .lineNumber =>
    write s!"{editor.number}\n"
    return following
  | .fileName =>
    write s!"{editor.name}\n"
    return following
  | .substitute substitution => substitute substitution index
  | .replaceCharacters pairs =>
    setText (String.ofList (editor.pattern.text.toList.map fun c => (pairs.lookup c).getD c))
    return following

/-- Goes over the command at a place, or carries it out if its addresses select the line. -/
def step (index : Nat) : Edit Next := do
  match settings.script[index]? with
  | none => return .cycle true
  | some command =>
    match ← isSelected? index command with
    | none => return .fault
    | some selected =>
      if selected != command.negated then perform settings index command
      else
        return .at (match command.action with
          | .opening => afterClosing 0 (settings.script.drop (index + 1)) (index + 1)
          | _ => index + 1)

/-- An editor before the first line. -/
def Editor.start (separator : Octets) (files : List Octets) : Editor where
  separator := separator
  pattern := ⟨"", true⟩
  hold := ⟨"", true⟩
  rest := []
  name := "-"
  number := 0
  replaced := false
  ranges := []
  lastPattern? := none
  queued := []
  output := .empty separator
  files := files.map fun path => (path, .empty separator)
  sources := []

/-- How a run ends. -/
inductive Ending where
  /-- All lines have been worked on. -/
  | finished
  | quit (status : Nat)
  | fault
  deriving DecidableEq, Repr

/-- Prints the line if it is to be printed, and what is to be written after it. -/
def endCycle (prints : Bool) : Edit Unit := do
  if prints && settings.prints then writeLine (← get).pattern
  flush

/-- Goes on at a place, then with the lines that have not been read. -/
def runFrom : (fuel : Nat) → (index : Nat) → Edit Ending
  | 0, _ => return .finished
  | fuel + 1, index => do
    match ← step settings index with
    | .at index => runFrom fuel index
    | .cycle prints =>
      endCycle settings prints
      if ← readNext false then runFrom fuel 0 else return .finished
    | .again =>
      endCycle settings false
      runFrom fuel 0
    | .quit status prints =>
      if prints then endCycle settings true
      return .quit status
    | .fault => return .fault

/-- Carries out a script for lines; the hold space is the one of the editor. -/
def run (fuel : Nat) (lines : List (Octets × Line)) : Edit Ending := do
  modify fun editor =>
    { editor with
      rest := lines, number := 0, ranges := [], queued := [], output := .empty editor.separator }
  if ← readNext false then runFrom settings fuel 0 else return .finished

end

end TreeSchema.Editing
