import TreeSchema.Formatter.Utility.Files
import TreeSchema.Text.Regex.Reading

/-!
Looking for lines in which something is found.
-/

namespace TreeSchema.Utility

open Text (Octets Regex)

/-- The first part of a line, at one of `count` positions, that one of the patterns stands for and
that is accepted; of the parts that start at one position the longest. -/
def findPart? (patterns : List Regex) (subject : Regex.Subject) (accepts : Nat → Nat → Bool) :
    (count : Nat) → (start : Nat) → Option (Nat × Nat)
  | 0, _ => none
  | count + 1, start =>
    let stops := patterns.flatMap fun pattern =>
      (Regex.ends subject pattern ⟨start, []⟩).map (·.position)
    match (stops.filter (accepts start)).max? with
    | some stop => some (start, stop)
    | none => findPart? patterns subject accepts count (start + 1)

/-- What is looked for. -/
structure Search where
  patterns : List Regex
  ignoreCase : Bool
  /-- Whether a part must be a whole word, or the whole line. -/
  wholeWord : Bool
  wholeLine : Bool

namespace Search

def subject (search : Search) (line : Octets) : Regex.Subject :=
  ⟨line.toList.toArray, search.ignoreCase, false⟩

def accepts (search : Search) (subject : Regex.Subject) (start stop : Nat) : Bool :=
  (!search.wholeWord || !subject.isWordBefore start && !subject.isWordAt stop) &&
    (!search.wholeLine || start = 0 && stop = subject.characters.size)

def partFrom? (search : Search) (line : Octets) (start : Nat) : Option (Nat × Nat) :=
  let subject := search.subject line
  findPart? search.patterns subject (search.accepts subject) (line.length + 1 - start) start

/-- The parts of a line that are found and not empty. -/
def parts (search : Search) (line : Octets) : (fuel : Nat) → (start : Nat) → List Octets
  | 0, _ => []
  | fuel + 1, start =>
    match search.partFrom? line start with
    | some (first, stop) =>
      let part := takeOctets (stop - first) (dropOctets first line)
      if part.isEmpty then search.parts line fuel (first + 1)
      else part :: search.parts line fuel stop
    | none => []

end Search

/-- A line of a file, counted from one, and whether it is selected. -/
structure Candidate where
  number : Nat
  line : Octets
  selected : Bool

/-- Up to which line lines are selected if there is a most number of them. -/
def limitSelected : Option Nat → List Candidate → List Candidate
  | none, candidates => candidates
  | some _, [] => []
  | some left, candidate :: rest =>
    if candidate.selected then
      { candidate with selected := left > 0 } :: limitSelected (some (left - 1)) rest
    else candidate :: limitSelected (some left) rest

/-- How the lines that are found are printed. -/
structure Listing where
  /-- The name of the file before each line. -/
  name? : Option Octets
  numbered : Bool
  onlyParts : Bool
  /-- How many lines are printed around a selected one. -/
  before : Nat
  after : Nat

def Listing.line (listing : Listing) (sign : String) (number : Nat) (text : Octets) : Octets :=
  let name := (listing.name?.map (· ++ sign)).getD ""
  let number := if listing.numbered then toString number ++ sign else ""
  s!"{name}{number}{text}\n"

/-- The lines that are selected, and those around them after a minus sign; a line of two such signs
stands for those between that are left out. -/
def Listing.print (listing : Listing) (search : Search) (candidates : List Candidate) : Octets :=
  if listing.onlyParts then
    String.join ((candidates.filter (·.selected)).flatMap fun candidate =>
      (search.parts candidate.line (candidate.line.length + 1) 0).map
        (listing.line ":" candidate.number))
  else
    let selected := (candidates.filter (·.selected)).map (·.number)
    let isNear (number : Nat) : Bool := selected.any fun other =>
      other ≤ number + listing.before && number ≤ other + listing.after
    let printed := candidates.filter fun candidate => isNear candidate.number
    let numbers := printed.map (·.number)
    String.join ((printed.zip (none :: numbers.map some)).map fun (candidate, last?) =>
      let gap := listing.before + listing.after > 0 && last?.any (· + 1 < candidate.number)
      let line :=
        listing.line (if candidate.selected then ":" else "-") candidate.number candidate.line
      if gap then "--\n" ++ line else line)

/-- Reports how the program is called. -/
def complainOfSearch (text? : Option Octets) : Task Unit := do
  if let some text := text? then Task.warn text
  let name := (← get).name
  Task.report s!"Usage: {name} [OPTION]... PATTERNS [FILE]...\nTry '{name} --help' for more information.\n"
  Task.setStatus 2

def searchNames : List (String × Char) :=
  [("quiet", 'q'), ("silent", 'q'), ("ignore-case", 'i'), ("invert-match", 'v'), ("count", 'c'),
    ("line-number", 'n'), ("fixed-strings", 'F'), ("extended-regexp", 'E'),
    ("basic-regexp", 'G'), ("only-matching", 'o'), ("files-with-matches", 'l'),
    ("files-without-match", 'L'), ("word-regexp", 'w'), ("line-regexp", 'x'),
    ("no-messages", 's'), ("no-filename", 'h'), ("with-filename", 'H'), ("regexp", 'e'),
    ("file", 'f'), ("max-count", 'm'), ("after-context", 'A'), ("before-context", 'B'),
    ("context", 'C'), ("recursive", 'r'), ("text", 'a')]

/-- The patterns that are given; the error is what is wrong with one. -/
def readPatterns (arguments : Arguments) (fixed extended : Bool) (texts : List Octets) :
    Except Octets (List Regex) :=
  ((texts.flatMap fun text => text.splitOn "\n").mapM fun text =>
    if fixed && !arguments.has 'E' && !arguments.has 'G' || arguments.has 'F' then
      .ok (Regex.literal text)
    else
      match Regex.ofText ⟨extended && !arguments.has 'G' || arguments.has 'E' || arguments.has 'P',
        true⟩ text with
      | .ok (regex, _) => .ok regex
      | .error fault => .error fault.message)

def sizeOf? (arguments : Arguments) (flag : Char) : Option Nat :=
  (arguments.value? flag).bind naturalOf?

/-- Whether a file is the one that is written. -/
def isTarget (path : Octets) : Task Bool := do
  let process ← get
  let place? : Option Path :=
    if path = "-" then process.source? else (process.store.resolve path.decode).toOption
  return place?.isSome && place? == process.target?.map (·.1)

/-- Prints what is asked for about the lines of a file; the answer is whether any is selected. -/
def searchText (arguments : Arguments) (search : Search) (named : Bool) (name content : Octets) :
    Task Bool := do
  let candidates := ((lines content).map chomp).zipIdx.map fun (line, index) =>
    (⟨index + 1, line, (search.partFrom? line 0).isSome != arguments.has 'v'⟩ : Candidate)
  let candidates := limitSelected (sizeOf? arguments 'm') candidates
  let count := candidates.countP (·.selected)
  let context := (sizeOf? arguments 'C').getD 0
  let listing : Listing := {
    name? := if named then some name else none
    numbered := arguments.has 'n'
    onlyParts := arguments.has 'o'
    before := (sizeOf? arguments 'B').getD context
    after := (sizeOf? arguments 'A').getD context }
  if arguments.has 'q' then return count > 0
  if arguments.has 'l' then
    if count > 0 then Task.say s!"{name}\n"
  else if arguments.has 'L' then
    if count = 0 then Task.say s!"{name}\n"
  else if arguments.has 'c' then
    Task.say (if named then s!"{name}:{count}\n" else s!"{count}\n")
  else unless arguments.has 'o' && arguments.has 'v' do
    Task.say (listing.print search candidates)
  return count > 0

/-- Looks for lines in files; ends early where it is only asked whether there is one. -/
def searchFiles (arguments : Arguments) (search : Search) (named : Bool) (found failed : Bool) :
    List Octets → Task Unit
  | [] =>
    Task.setStatus (if found && arguments.has 'q' then 0 else if failed then 2
      else if found then 0 else 1)
  | path :: rest => do
    if found && arguments.has 'q' then return ← Task.setStatus 0
    let name := if path = "-" then "(standard input)" else path
    let printsLines := !(['q', 'l', 'L', 'm'].any arguments.has)
    match ← Task.readFile path with
    | .error fault =>
      unless arguments.has 's' do Task.warn s!"{name}: {fault.reason}"
      searchFiles arguments search named found true rest
    | .ok content =>
      if printsLines && (← isTarget path) then
        Task.warn s!"{name}: input file is also the output"
        searchFiles arguments search named found true rest
      else
        let here ← searchText arguments search named name content
        searchFiles arguments search named (found || here) failed rest

/-- The files in a directory and in those below it. -/
def filesBelow (store : Store) : (fuel : Nat) → Octets → List Octets
  | 0, path => [path]
  | fuel + 1, path =>
    match store.lookup? (Octets.decode path) with
    | some .directory =>
      (store.namesAt (Octets.decode path)).flatMap fun name =>
        filesBelow store fuel
          ((if path.endsWith "/" then path else path ++ "/") ++ Octets.encode name)
    | _ => [path]

/-- Prints the lines in which one of the patterns is found, which are separated by line breaks. -/
def searchLines (fixed extended : Bool) : Utility := fun args => do
  let arguments := readArguments "EFGPivywxclLqsonhHrRaUTu" "efmABC" args.length
    (shortFlags searchNames args)
  match arguments.unknown?, arguments.valueless? with
  | some '-', _ =>
    let option := (args.find? fun arg => arg.startsWith "--" && arg != "--").getD "--"
    complainOfSearch (some s!"unrecognized option '{option}'")
  | some c, _ => complainOfSearch (some s!"invalid option -- '{c}'")
  | none, some c => complainOfSearch (some s!"option requires an argument -- '{c}'")
  | none, none =>
    let given := (arguments.flags.filter (·.1 == 'e')).map (·.2)
    let listed ← (arguments.flags.filter (·.1 == 'f')).mapM fun flag => do
      return (flag.2, ← Task.readFile flag.2)
    let chosen := !(given.isEmpty && listed.isEmpty)
    let texts := if chosen then given ++ listed.filterMap fun (_, result) =>
        match result with
        | .ok content => if content.isEmpty then none else some (chomp content)
        | .error _ => none
      else arguments.operands.take 1
    let paths := if chosen then arguments.operands else arguments.operands.drop 1
    let isCount (flag : Char) : Bool := (arguments.value? flag).all (naturalOf? · |>.isSome)
    let fault? := listed.findSome? fun (path, result) =>
      match result with
      | .ok _ => none
      | .error fault => some s!"{path}: {fault.reason}"
    if !chosen && arguments.operands.isEmpty then complainOfSearch none
    else if !isCount 'm' then
      Task.warn "invalid max count"
      Task.setStatus 2
    else if let some flag := ['A', 'B', 'C'].find? (!isCount ·) then
      let text := (arguments.value? flag).getD ""
      Task.warn s!"{text}: invalid context length argument"
      Task.setStatus 2
    else if let some fault := fault? then
      Task.warn fault
      Task.setStatus 2
    else
      match readPatterns arguments fixed extended texts with
      | .error message =>
        Task.warn message
        Task.setStatus 2
      | .ok patterns =>
        let recursive := arguments.has 'r' || arguments.has 'R'
        let search : Search :=
          ⟨patterns, arguments.has 'i' || arguments.has 'y', arguments.has 'w', arguments.has 'x'⟩
        let store ← Task.store
        let paths := if paths.isEmpty then (if recursive then ["."] else ["-"]) else paths
        let paths := if recursive then paths.flatMap (filesBelow store 64) else paths
        let named := (paths.length > 1 || recursive || arguments.has 'H') && !arguments.has 'h'
        searchFiles arguments search named false false paths

def grep : Utility := searchLines false false

def egrep : Utility := searchLines false true

def fgrep : Utility := searchLines true false

end TreeSchema.Utility
