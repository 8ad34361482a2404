import TreeSchema.Formatter.Utility.Basic

/-!
Programs that put lines in order and leave out lines that are equal.
-/

namespace TreeSchema.Utility

open Text (Octets)

/-- The number that a line starts with, in digits before and after a point. -/
def numericKey (line : Octets) : Int × List Char :=
  let text := line.toList.dropWhile fun c => c = ' ' || c = '\t'
  let (negative, text) := match text with
    | '-' :: rest => (true, rest)
    | rest => (false, rest)
  let whole := text.takeWhile Char.isDigit
  let value : Int := ((String.ofList whole).toNat?.getD 0 : Nat)
  let fraction := match text.drop whole.length with
    | '.' :: rest => (rest.takeWhile Char.isDigit).reverse.dropWhile (· == '0') |>.reverse
    | _ => []
  (if negative then -value else value, if negative then [] else fraction)

/-- A part of a line that lines are ordered by: fields from one to another. -/
structure SortKey where
  first : Nat
  last? : Option Nat
  flags : List Char

/-- The key that is written as two numbers of fields with flags after them. -/
def sortKey? (text : Octets) : Option SortKey :=
  let digits := text.toList.takeWhile Char.isDigit
  let rest := text.toList.drop digits.length
  let rest := match rest with
    | '.' :: more => more.dropWhile Char.isDigit
    | rest => rest
  let flags := rest.takeWhile Char.isAlpha
  match rest.drop flags.length with
  | [] => (naturalOf? (String.ofList digits)).map (⟨·, none, flags⟩)
  | ',' :: more =>
    let last := more.takeWhile Char.isDigit
    let after := (more.drop last.length).filter Char.isAlpha
    (naturalOf? (String.ofList digits)).map
      (⟨·, naturalOf? (String.ofList last), flags ++ after⟩)
  | _ => none

/-- The fields of a line. Without a separator blanks start a field and belong to it. -/
def fieldsOf (separator? : Option Char) (line : List Char) : List (List Char) :=
  match separator? with
  | some separator =>
    ((String.ofList line).splitOn (String.singleton separator)).map String.toList
  | none => go (line.length + 1) line
where
  go : Nat → List Char → List (List Char)
    | 0, _ | _, [] => []
    | fuel + 1, line =>
      let isBlank (c : Char) : Bool := c == ' ' || c == '\t'
      let blanks := line.takeWhile isBlank
      let word := (line.drop blanks.length).takeWhile fun c => !isBlank c
      (blanks ++ word) :: go fuel (line.drop (blanks.length + word.length))

def keyText (separator? : Option Char) (key : SortKey) (line : Octets) : Octets :=
  let fields := fieldsOf separator? (chomp line).toList
  let chosen := (match key.last? with
    | some last => fields.take last
    | none => fields).drop (key.first - 1)
  String.ofList (match separator? with
    | some separator => [separator].intercalate chosen
    | none => chosen.flatten)

/-- The order of two keys. -/
def compareKeys (flags : List Char) (a b : Octets) : Ordering :=
  let order :=
    if flags.contains 'n' then
      let (number, fraction) := numericKey a
      let (other, otherFraction) := numericKey b
      (compare number other).then (compare (String.ofList fraction) (String.ofList otherFraction))
    else
      let key (text : Octets) : Octets :=
        let text := if flags.contains 'b' then text.trimAsciiStart.toString else text
        if flags.contains 'f' then text.toUpper else text
      compare (key a) (key b)
  if flags.contains 'r' then order.swap else order

/-- The order of two lines by keys and, where these are equal, as a whole. -/
def compareLines (arguments : Arguments) (separator? : Option Char) (keys : List SortKey)
    (a b : Octets) : Ordering :=
  let letters := arguments.flags.map (·.1)
  let byKeys :=
    if keys.isEmpty then compareKeys letters (chomp a) (chomp b)
    else
      keys.foldl (fun order key =>
        let flags := if key.flags.isEmpty then letters else key.flags
        order.then (compareKeys flags (keyText separator? key a) (keyText separator? key b))) .eq
  if letters.contains 's' || letters.contains 'u' then byKeys
  else
    let whole := compare (chomp a) (chomp b)
    byKeys.then (if letters.contains 'r' then whole.swap else whole)

/-- Leaves the first of lines that are equal. -/
def firstOfEqual (order : Octets → Octets → Ordering) : List Octets → List Octets
  | first :: second :: rest =>
    if order first second = .eq then firstOfEqual order (first :: rest)
    else first :: firstOfEqual order (second :: rest)
  | rest => rest
  termination_by lines => lines.length

def sort : Utility := fun args =>
  withArguments "rnufbscVhmgMdiR" "kto" args 2 fun arguments => do
    let keyFlags := (arguments.flags.filter (·.1 == 'k')).map (·.2)
    let fault? : Option Octets := match arguments.value? 't' with
      | some "" => some "empty tab"
      | some tab => if tab.length > 1 then some s!"multi-character tab {inQuotes tab}" else none
      | none => keyFlags.findSome? fun key =>
        match sortKey? key with
        | some sortKey =>
          if sortKey.first = 0 then
            some s!"field number is zero: invalid field specification {inQuotes key}"
          else none
        | none =>
          some s!"invalid number at field start: invalid count at start of {inQuotes key}"
    if let some fault := fault? then
      Task.warn fault
      return ← Task.setStatus 2
    let paths : List Octets := if arguments.operands.isEmpty then ["-"] else arguments.operands
    let found ← paths.mapM fun path => do
      return (path, ← Task.readFile path)
    let failed? := found.findSome? fun (path, result) =>
      match result with
      | .ok _ => none
      | .error .isDirectory => some s!"read failed: {shown path}: {IoFault.isDirectory.reason}"
      | .error fault => some s!"cannot read: {shown path}: {fault.reason}"
    match failed? with
    | some report =>
      Task.warn report
      Task.setStatus 2
    | none =>
      let texts := found.map fun (_, result) =>
        match result with
        | .ok content => (lines content).map terminated
        | .error _ => []
      let separator? := (arguments.value? 't').bind fun text => text.toList.head?
      let keys := keyFlags.filterMap sortKey?
      let order := compareLines arguments separator? keys
      let sorted := texts.flatten.mergeSort fun a b => order a b != .gt
      let sorted := if arguments.has 'u' then firstOfEqual order sorted else sorted
      if arguments.has 'c' then
        let found := texts.flatten
        match (found.zip found.tail).zipIdx.find? fun ((a, b), _) => order a b = .gt with
        | some ((_, b), index) =>
          let path := paths.headD "-"
          Task.complain s!"{path}:{index + 2}: disorder: {chomp b}"
        | none => return ()
      else
        match arguments.value? 'o' with
        | none => Task.say (String.join sorted)
        | some path =>
          match ← Task.writeFile path (String.join sorted) with
          | .ok _ => return ()
          | .error fault =>
            Task.warn s!"open failed: {shown path}: {fault.reason}"
            Task.setStatus 2

/-- Equal lines after each other, each with how many there are. -/
def runsOf (key : Octets → Octets) : List Octets → List (Octets × Nat)
  | [] => []
  | line :: rest =>
    match runsOf key rest with
    | (other, count) :: runs =>
      if key line = key other then (line, count + 1) :: runs else (line, 1) :: (other, count) :: runs
    | [] => [(line, 1)]

def uniq : Utility := fun args =>
  withArguments "cdui" "fsw" args 1 fun arguments => do
    let path := arguments.operands.headD "-"
    if let some extra := arguments.operands[2]? then
      return ← Task.complainOfUse s!"extra operand {inQuotes extra}" 1
    match ← Task.readFile path with
    | .error .isDirectory =>
      Task.complain s!"error reading {inQuotes path}: {IoFault.isDirectory.reason}"
    | .error fault => Task.complain s!"{shown path}: {fault.reason}"
    | .ok content =>
      let size (flag : Char) : Nat := ((arguments.value? flag).bind naturalOf?).getD 0
      let key (line : Octets) : Octets :=
        let fields := ((fieldsOf none (chomp line).toList).drop (size 'f')).flatten
        let text := if size 'f' = 0 then (chomp line).toList else fields
        let text := text.drop (size 's')
        let text := if arguments.has 'w' then text.take (size 'w') else text
        let text := String.ofList text
        if arguments.has 'i' then text.toLower else text
      let runs := runsOf key ((lines content).map terminated)
      let runs := if arguments.has 'd' then runs.filter (·.2 > 1) else runs
      let runs := if arguments.has 'u' then runs.filter (·.2 = 1) else runs
      let output := String.join (runs.map fun (line, count) =>
        if arguments.has 'c' then s!"{padLeft 7 (toString count)} {line}" else line)
      match arguments.operands with
      | _ :: target :: _ =>
        match ← Task.writeFile target output with
        | .ok _ => return ()
        | .error fault => Task.complain s!"{shown target}: {fault.reason}"
      | _ => Task.say output

end TreeSchema.Utility
