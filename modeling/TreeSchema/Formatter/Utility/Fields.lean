import TreeSchema.Formatter.Utility.Printing

/-!
Programs that cut lines into parts and put lines together.
-/

namespace TreeSchema.Utility

open Text (Octets)

/-- Positions of a line, from one to another or to the last one. -/
abbrev PositionSpan := Nat × Option Nat

/-- Why a list of positions cannot be read. -/
inductive ListFault where
  | zero
  | noEndpoint
  | decreasing
  | range
  | value (text : Octets)

def ListFault.message (ofFields : Bool) : ListFault → Octets
  | zero =>
    (if ofFields then "fields" else "byte/character positions") ++ " are numbered from 1"
  | noEndpoint => "invalid range with no endpoint: -"
  | decreasing => "invalid decreasing range"
  | range => if ofFields then "invalid field range" else "invalid byte or character range"
  | value text =>
    (if ofFields then "invalid field value " else "invalid byte/character position ") ++
      inQuotes text

def readSpan (text : Octets) : Except ListFault PositionSpan :=
  let position (digits : Octets) : Except ListFault Nat :=
    match digits.toList.dropWhile Char.isDigit with
    | [] => if digits.toNat? = some 0 then .error .zero else .ok (digits.toNat?.getD 1)
    | rest => .error (.value (String.ofList rest))
  match text.splitOn "-" with
  | [single] =>
    if single.isEmpty then .error .zero else (position single).map fun n => (n, some n)
  | [low, high] =>
    if low.isEmpty && high.isEmpty then .error .noEndpoint
    else do
      let first ← position low
      let last ← position high
      if high.isEmpty then return (first, none)
      else if last < first then throw .decreasing
      else return (first, some last)
  | _ => .error .range

/-- The spans that a list asks for. -/
def readSpans (text : Octets) : Except ListFault (List PositionSpan) :=
  ((text.replace " " ",").splitOn ",").mapM readSpan

def isChosen (spans : List PositionSpan) (position : Nat) : Bool :=
  spans.any fun (low, high?) => low ≤ position && high?.all (position ≤ ·)

/-- The items at chosen positions, which count from one. -/
def chooseItems {α : Type} (chosen : Nat → Bool) (items : List α) : List α :=
  (items.zipIdx.filter fun (_, index) => chosen (index + 1)).map (·.1)

def cutLine (arguments : Arguments) (chosen : Nat → Bool) (line : Octets) : Option Octets :=
  if arguments.has 'f' then
    let delimiter := match arguments.value? 'd' with
      | none => "\t"
      | some "" => "\x00"
      | some text => text
    let fields := line.splitOn delimiter
    if fields.length = 1 then (if arguments.has 's' then none else some line)
    else some (delimiter.intercalate (chooseItems chosen fields))
  else some (String.ofList (chooseItems chosen line.toList))

def cut : Utility := fun args =>
  let complement := args.contains "--complement"
  withArguments "sn" "bcfd" (args.filter (· != "--complement")) 1 fun arguments => do
    let fail (text : Octets) : Task Unit := Task.complainOfUse text 1
    let ofFields := arguments.has 'f'
    match arguments.flags.filter fun flag => ['b', 'c', 'f'].contains flag.1 with
    | [(_, list)] =>
      if (arguments.value? 'd').any (·.length > 1) then
        fail "the delimiter must be a single character"
      else if arguments.has 'd' && !ofFields then
        fail "an input delimiter may be specified only when operating on fields"
      else if arguments.has 's' && !ofFields then
        fail "suppressing non-delimited lines makes sense\n\tonly when operating on fields"
      else
        match readSpans list with
        | .error fault => fail (fault.message ofFields)
        | .ok spans =>
          let chosen (position : Nat) : Bool := isChosen spans position != complement
          forFiles arguments.operands plainFault fun _ content =>
            Task.say (String.join ((lines content).filterMap fun line =>
              (cutLine arguments chosen (chomp line)).map (· ++ "\n")))
    | [] => fail "you must specify a list of bytes, characters, or fields"
    | _ => fail "only one list may be specified"

/-- Items with delimiters between them, which are taken in turn. -/
def joinInTurn (delimiters : List Octets) (items : List Octets) : Octets :=
  match items with
  | [] => ""
  | first :: rest =>
    first ++ String.join (rest.zipIdx.map fun (item, index) =>
      (delimiters[index % delimiters.length]?).getD "" ++ item)

/-- Puts lines of files next to each other. -/
def pasteLines (delimiters : List Octets) : (fuel : Nat) → List (List Octets) → List Octets
  | 0, _ => []
  | fuel + 1, files =>
    if files.all (·.isEmpty) then []
    else
      joinInTurn delimiters (files.map (·.headD "")) ::
        pasteLines delimiters fuel (files.map List.tail)

def paste : Utility := fun args =>
  withArguments "s" "d" args 1 fun arguments => do
    let paths := if arguments.operands.isEmpty then ["-"] else arguments.operands
    let delimiters := ((unescape ((arguments.value? 'd').getD "\t")).1.toList).map fun c =>
      if c = '\x00' then "" else String.singleton c
    let inputs := if arguments.has 's' then 1 else paths.count "-"
    let input ← if paths.contains "-" then Task.takeInput else pure ""
    let inputLines := (lines input).map chomp
    let files ← paths.zipIdx.filterMapM fun (path, index) => do
      if path = "-" then
        let place := (paths.take index).count "-"
        if arguments.has 's' then return some (if place = 0 then inputLines else [])
        return some ((inputLines.zipIdx.filter fun (_, line) => line % inputs = place).map (·.1))
      match ← Task.readFile path with
      | .ok content => return some ((lines content).map chomp)
      | .error fault =>
        Task.complain s!"{shown path}: {fault.reason}"
        return none
    let output :=
      if arguments.has 's' then files.map (joinInTurn delimiters)
      else pasteLines delimiters (files.foldl (fun most file => max most file.length) 0) files
    Task.say (String.join (output.map (· ++ "\n")))

/-- The pieces of a line that are at most so long. -/
def foldPieces (width : Nat) : (fuel : Nat) → Octets → List Octets
  | 0, line => [line]
  | fuel + 1, line =>
    if line.length ≤ width then [line]
    else takeOctets width line :: foldPieces width fuel (dropOctets width line)

def fold : Utility := fun args =>
  withArguments "bs" "w" args 1 fun arguments => do
    let width := ((arguments.value? 'w').bind naturalOf?).getD 80
    forFiles arguments.operands plainFault fun _ content =>
      Task.say (String.join ((lines content).map fun line =>
        "\n".intercalate (foldPieces width line.length (chomp line)) ++
          if line.endsWith "\n" then "\n" else ""))

end TreeSchema.Utility
