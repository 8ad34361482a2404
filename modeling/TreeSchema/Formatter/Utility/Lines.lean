import TreeSchema.Formatter.Utility.Files

/-!
Programs that print lines of files: from the start or the end, in reverse, with numbers, or how
many there are.
-/

namespace TreeSchema.Utility

open Text (Octets)

/-! ### Starts and ends -/

/-- An old form of a count: a dash or a plus sign and digits. -/
def withCountFlag (args : List Octets) : List Octets :=
  match args with
  | arg :: rest =>
    match arg.toList with
    | sign :: digit :: more =>
      if (sign = '-' || sign = '+') && (digit :: more).all Char.isDigit then
        "-n" :: String.ofList (if sign = '+' then sign :: digit :: more else digit :: more) :: rest
      else arg :: rest
    | _ => arg :: rest
  | [] => []

/-- Prints parts of files, each under its name if there are several. -/
def printParts (arguments : Arguments) (part : Octets → Octets) : Task Unit := do
  let titled := (arguments.operands.length > 1 || arguments.has 'v') && !arguments.has 'q'
  let rec go (first : Bool) : List Octets → Task Unit
    | [] => return ()
    | path :: rest => do
      let title := if path = "-" then "standard input" else path
      let sayTitle : Task Unit := do
        if titled then
          Task.say ((if first then "" else "\n") ++ s!"==> {title} <==\n")
      match ← Task.readFile path with
      | .ok content =>
        sayTitle
        Task.say (part content)
        go false rest
      | .error .isDirectory =>
        sayTitle
        Task.complain s!"error reading {inQuotes title}: {IoFault.isDirectory.reason}"
        go false rest
      | .error fault =>
        Task.complain s!"cannot open {inQuotes path} for reading: {fault.reason}"
        go first rest
  go true (if arguments.operands.isEmpty then ["-"] else arguments.operands)

/-- A part of a text: a number of pieces, or all but so many of them. -/
structure Part where
  count : Nat
  /-- Whether the count is of what is left out. -/
  rest : Bool

/-- A count with a sign before it. -/
def partOf? (sign : Char) (text : Octets) : Option Part :=
  match text.toList with
  | c :: digits =>
    if c = sign then (naturalOf? (String.ofList digits)).map (⟨·, true⟩)
    else if c = '-' || c = '+' then (naturalOf? (String.ofList digits)).map (⟨·, false⟩)
    else (naturalOf? text).map (⟨·, false⟩)
  | [] => none

def takePart (part : Part) (text : Octets) (bytes : Bool) : Octets :=
  if bytes then takeOctets (if part.rest then text.length - part.count else part.count) text
  else
    let found := lines text
    String.join (found.take (if part.rest then found.length - part.count else part.count))

/-- What is at the end of a text; a count of what is left out counts from one. -/
def dropPart (part : Part) (text : Octets) (bytes : Bool) : Octets :=
  if bytes then
    dropOctets (if part.rest then part.count - 1 else text.length - part.count) text
  else
    let found := lines text
    String.join (found.drop (if part.rest then part.count - 1 else found.length - part.count))

def printSized (sign : Char) (part : Part → Octets → Bool → Octets) (args : List Octets) :
    Task Unit :=
  withArguments "qvfz" "nc" (withCountFlag args) 1 fun arguments => do
    let bytes := (arguments.flags.reverse.find? fun flag => flag.1 == 'n' || flag.1 == 'c').any
      (·.1 == 'c')
    let text := (arguments.value? (if bytes then 'c' else 'n')).getD "10"
    match partOf? sign text with
    | some size => printParts arguments fun content => part size content bytes
    | none =>
      let unit := if bytes then "bytes" else "lines"
      Task.complain s!"invalid number of {unit}: {inQuotes text}"

def head : Utility := printSized '-' takePart

def tail : Utility := printSized '+' dropPart

/-! ### Counting -/

/-- How many lines, words and bytes a text has, and the length of its longest line. -/
def counts (text : Octets) : List Nat :=
  let characters := text.toList
  let isBlank (c : Char) : Bool := [' ', '\t', '\n', '\x0b', '\x0c', '\r'].contains c
  let words := (characters.zip (' ' :: characters)).countP fun (c, before) =>
    !isBlank c && isBlank before
  let longest := (text.splitOn "\n").foldl (fun longest line => max longest line.length) 0
  [characters.count '\n', words, characters.length, longest]

/-- The counts that are asked for; the lines, words and bytes if none are. -/
def chosenCounts (arguments : Arguments) (counts : List Nat) : List Nat :=
  match counts with
  | [lineCount, wordCount, byteCount, longest] =>
    let chosen (flags : List Char) (count : Nat) : List Nat :=
      if flags.any arguments.has then [count] else []
    if arguments.flags.isEmpty then [lineCount, wordCount, byteCount]
    else
      chosen ['l'] lineCount ++ chosen ['w'] wordCount ++ chosen ['m'] byteCount ++
        chosen ['c'] byteCount ++ chosen ['L'] longest
  | counts => counts

def countLine (width : Nat) (numbers : List Nat) (path : Octets) : Octets :=
  " ".intercalate (numbers.map fun number => padLeft width (toString number)) ++
    (if path.isEmpty then "" else " " ++ path) ++ "\n"

def wc : Utility := fun args =>
  withArguments "lwcmL" "" args 1 fun arguments => do
    let paths := if arguments.operands.isEmpty then ["-"] else arguments.operands
    let unnamed := arguments.operands.isEmpty
    let piped := (← get).source?.isNone
    let found ← paths.mapM fun path => do
      return (path, ← Task.readFile path)
    let sizes := found.map fun (_, result) =>
      match result with
      | .ok content => content.length
      | .error _ => 0
    let single := paths.length = 1 && (chosenCounts arguments [0, 0, 0, 0]).length = 1
    let least := if paths.contains "-" && piped || found.any fun (_, result) =>
      (match result with | .error .isDirectory => true | _ => false) then 7 else 1
    let width := if single then 1 else max least (toString (sizes.foldl Nat.add 0)).length
    let totals ← found.foldlM (fun (totals : List Nat) (path, result) => do
      match result with
      | .ok content =>
        let numbers := counts content
        Task.say (countLine width (chosenCounts arguments numbers) (if unnamed then "" else path))
        return totals.zipWith Nat.add numbers
      | .error fault =>
        let title := if path = "-" then "standard input" else path
        Task.complain s!"{shown title}: {fault.reason}"
        if fault = .isDirectory then
          let name := if unnamed then "" else path
          Task.say (countLine width (chosenCounts arguments [0, 0, 0, 0]) name)
        return totals) [0, 0, 0, 0]
    if paths.length > 1 then
      Task.say (countLine width (chosenCounts arguments totals) "total")

/-! ### Other forms of lines -/

def tac : Utility := fun args =>
  withArguments "" "" args 1 fun arguments =>
    forFiles arguments.operands
      (fun path reason => s!"failed to open {inQuotes path} for reading: {reason}")
      fun _ content => Task.say (String.join (lines content).reverse)

def rev : Utility := fun args =>
  withArguments "" "" args 1 fun arguments =>
    forFiles arguments.operands (fun path reason => s!"cannot open {path}: {reason}")
      fun _ content =>
        Task.say (String.join ((lines content).map fun line =>
          String.ofList (chomp line).toList.reverse ++ if line.endsWith "\n" then "\n" else ""))

/-- Numbers the lines that are not empty. -/
def nl : Utility := fun args =>
  withArguments "" "bwsnv" args 1 fun arguments => do
    let content ← readAll arguments.operands plainFault
    let all := arguments.value? 'b' = some "a"
    let width := ((arguments.value? 'w').bind naturalOf?).getD 6
    let separator := (arguments.value? 's').getD "\t"
    let rec go (number : Nat) : List Octets → List Octets
      | [] => []
      | line :: rest =>
        if all || chomp line != "" then
          (padLeft width (toString number) ++ separator ++ terminated line) :: go (number + 1) rest
        else
          (String.ofList (List.replicate (width + separator.length) ' ') ++ "\n") :: go number rest
    Task.say (String.join (go (((arguments.value? 'v').bind naturalOf?).getD 1) (lines content)))

/-! ### Differences -/

/-- Whether two files have the same content. -/
def cmp : Utility := fun args =>
  withArguments "s" "" args 2 fun arguments => do
    match arguments.operands ++ (if arguments.operands.length = 1 then ["-"] else []) with
    | [a, b] =>
      match ← Task.readFile a, ← Task.readFile b with
      | .ok first, .ok second =>
        if first != second then
          let same := (first.toList.zip second.toList).takeWhile fun (c, d) => c == d
          let line := (same.countP fun (c, _) => c == '\n') + 1
          let short := min first.length second.length
          Task.setStatus 1
          unless arguments.has 's' do
            if same.length = short then
              let ended := if first.length = short then a else b
              Task.warn
                (if short = 0 then s!"EOF on {ended} which is empty"
                  else s!"EOF on {ended} after byte {short}, line {line}")
            else Task.say s!"{a} {b} differ: char {same.length + 1}, line {line}\n"
      | .error fault, _ =>
        unless arguments.has 's' do Task.warn s!"{a}: {fault.reason}"
        Task.setStatus 2
      | _, .error fault =>
        unless arguments.has 's' do Task.warn s!"{b}: {fault.reason}"
        Task.setStatus 2
    | _ => Task.complainOfUse "missing operand after 'cmp'" 2

end TreeSchema.Utility
