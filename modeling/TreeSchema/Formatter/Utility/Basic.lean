import TreeSchema.Store.Calls
import TreeSchema.Text.Octets

/-!
Programs that a formatter command can be made of. A program has arguments and an input; it changes a
store, writes to its output and its errors, and ends with a status.
-/

namespace TreeSchema

open Text (Octets)

/-- What a program has written, to its output or to its errors. -/
inductive Written where
  | output (text : Octets)
  | errors (text : Octets)
  deriving DecidableEq, Repr

/-- A program that is running. -/
structure Process where
  /-- The name that it was called by. -/
  name : Octets
  store : Store
  environment : List (String × Octets)
  /-- What it has not read yet. -/
  input : Octets
  /-- The file that its input is read from. -/
  source? : Option Path
  /-- The file that its output goes to, and where in the file. -/
  target? : Option (Path × Nat)
  /-- What it has written, first text first. -/
  written : List Written
  status : Nat

abbrev Task := StateM Process

/-- A program, given its arguments. -/
abbrev Utility := List Octets → Task Unit

namespace Task

def say (text : Octets) : Task Unit :=
  modify fun process => { process with written := process.written ++ [.output text] }

def setStatus (status : Nat) : Task Unit :=
  modify fun process => { process with status }

/-- Writes to the errors. -/
def report (text : Octets) : Task Unit :=
  modify fun process => { process with written := process.written ++ [.errors text] }

/-- Reports a line under the name of the program. -/
def warn (text : Octets) : Task Unit := do
  let name := (← get).name
  report s!"{name}: {text}\n"

/-- Reports a line, and fails in the end. -/
def complain (text : Octets) : Task Unit := do
  warn text
  setStatus 1

/-- Reports a line and where to read more. -/
def complainOfUse (text : Octets) (status : Nat) : Task Unit := do
  warn text
  let name := (← get).name
  report s!"Try '{name} --help' for more information.\n"
  setStatus status

/-- Reads all that is left of the input. -/
def takeInput : Task Octets :=
  modifyGet fun process => (process.input, { process with input := "" })

def store : Task Store := do
  return (← get).store

def setStore (store : Store) : Task Unit :=
  modify fun process => { process with store }

/-- Reads a file, or the input where its path is a dash. -/
def readFile (path : Octets) : Task (Except IoFault Octets) := do
  if path = "-" || path = "/dev/stdin" then
    let process ← get
    if process.source?.any (process.store.get? · matches some .directory) then
      return .error .isDirectory
    return .ok (← takeInput)
  else return ((← store).read path.decode).map Octets.ofBytes

/-- Writes a file. -/
def writeFile (path : Octets) (content : Octets) : Task (Except IoFault Unit) := do
  match path with
  | "/dev/stdout" => return .ok (← say content)
  | "/dev/stderr" => return .ok (← report content)
  | path =>
    match (← store).write path.decode content.bytes with
    | .ok store => return .ok (← setStore store)
    | .error fault => return .error fault

end Task

namespace Utility

/-- Characters that a name is put in quotes for. -/
def needsQuotes (c : Char) : Bool :=
  c.toNat < 33 || c.toNat > 126 || "!\"$&'()*;<=>?[\\]^`|".toList.contains c

/-- A name in quotes. -/
def inQuotes (name : Octets) : Octets :=
  if name.toList.contains '\'' then
    if name.toList.any fun c => ['"', '$', '`', '\\', '!'].contains c then
      "'" ++ "'\\''".intercalate (name.splitOn "'") ++ "'"
    else s!"\"{name}\""
  else s!"'{name}'"

/-- A name, in quotes if it needs them. -/
def shown (name : Octets) : Octets :=
  if name.isEmpty || name.toList.any needsQuotes || name.startsWith "#" || name.startsWith "~" then
    inQuotes name
  else name

/-- The lines of a text, each with the line break that ends it. -/
def lines (text : Octets) : List Octets :=
  let parts := text.splitOn "\n"
  parts.dropLast.map (· ++ "\n") ++ (parts.getLast?.filter (!·.isEmpty)).toList

/-- A line without the line break that ends it. -/
def chomp (line : Octets) : Octets :=
  if line.endsWith "\n" then (line.dropEnd 1).toString else line

/-! ### Flags -/

/-- Flags with their values, and the other arguments. -/
structure Arguments where
  flags : List (Char × Octets)
  operands : List Octets
  /-- A letter that is no flag, or a flag that has no value. -/
  unknown? : Option Char
  valueless? : Option Char

namespace Arguments

def has (arguments : Arguments) (flag : Char) : Bool :=
  arguments.flags.any (·.1 == flag)

/-- The last value of a flag. -/
def value? (arguments : Arguments) (flag : Char) : Option Octets :=
  arguments.flags.reverse.lookup flag

end Arguments

/-- Reads the letters of one argument; a letter that takes a value takes what is left of the
argument or else the next one. -/
def readLetters (plain valued : String) : List Char → List Octets →
    List (Char × Octets) × List Octets × Option Char × Option Char
  | [], rest => ([], rest, none, none)
  | c :: more, rest =>
    if valued.toList.contains c then
      if more.isEmpty then
        match rest with
        | value :: rest => ([(c, value)], rest, none, none)
        | [] => ([], [], none, some c)
      else ([(c, String.ofList more)], rest, none, none)
    else if plain.toList.contains c then
      let (flags, rest, faults) := readLetters plain valued more rest
      ((c, "") :: flags, rest, faults)
    else ([], rest, some c, none)

/-- Reads flags wherever they stand. After two dashes nothing is a flag. -/
def readArguments (plain valued : String) : (fuel : Nat) → List Octets → Arguments
  | 0, operands => ⟨[], operands, none, none⟩
  | _, [] => ⟨[], [], none, none⟩
  | fuel + 1, arg :: rest =>
    match arg.toList with
    | ['-', '-'] => ⟨[], rest, none, none⟩
    | '-' :: c :: more =>
      let (flags, rest, unknown?, valueless?) := readLetters plain valued (c :: more) rest
      let others := readArguments plain valued fuel rest
      ⟨flags ++ others.flags, others.operands, unknown?.or others.unknown?,
        valueless?.or others.valueless?⟩
    | _ =>
      let others := readArguments plain valued fuel rest
      { others with operands := arg :: others.operands }

/-- Flags that are written out, by their letters. After two dashes nothing is a flag. -/
def shortFlags (names : List (String × Char)) : List Octets → List Octets
  | [] => []
  | "--" :: rest => "--" :: rest
  | arg :: rest =>
    let name := (arg.toList.drop 2).takeWhile (· != '=')
    let value := (arg.toList.drop (name.length + 3))
    let short := if arg.startsWith "--" then
        (names.lookup (String.ofList name)).map fun flag => String.ofList ('-' :: flag :: value)
      else none
    short.getD arg :: shortFlags names rest

/-- Runs something with the arguments if they are as they should be. -/
def withArguments (plain valued : String) (args : List Octets) (status : Nat)
    (run : Arguments → Task Unit) : Task Unit :=
  let arguments := readArguments plain valued args.length args
  match arguments.unknown?, arguments.valueless? with
  | some '-', _ =>
    let option := (args.find? fun arg => arg.startsWith "--" && arg != "--").getD "--"
    Task.complainOfUse s!"unrecognized option '{option}'" status
  | some c, _ => Task.complainOfUse s!"invalid option -- '{c}'" status
  | none, some c => Task.complainOfUse s!"option requires an argument -- '{c}'" status
  | none, none => run arguments

/-! ### Files as arguments -/

/-- Reads the files that are given, or the input, one after the other, and does something with each
that can be read. -/
def forFiles (paths : List Octets) (fault : Octets → Octets → Octets)
    (run : Octets → Octets → Task Unit) : Task Unit :=
  (if paths.isEmpty then ["-"] else paths).forM fun path => do
    match ← Task.readFile path with
    | .ok content => run path content
    | .error reason => Task.complain (fault path reason.reason)

/-- The text of all files that can be read. -/
def readAll (paths : List Octets) (fault : Octets → Octets → Octets) : Task Octets := do
  let texts ← (if paths.isEmpty then ["-"] else paths).mapM fun path => do
    match ← Task.readFile path with
    | .ok content => return content
    | .error reason =>
      Task.complain (fault path reason.reason)
      return ""
  return String.join texts

def plainFault (path reason : Octets) : Octets :=
  s!"{shown path}: {reason}"

def naturalOf? (text : Octets) : Option Nat :=
  if !text.isEmpty && text.toList.all Char.isDigit then text.toNat? else none

def padLeft (width : Nat) (text : Octets) : Octets :=
  String.ofList (List.replicate (width - text.length) ' ') ++ text

def takeOctets (count : Nat) (text : Octets) : Octets :=
  (text.take count).toString

def dropOctets (count : Nat) (text : Octets) : Octets :=
  (text.drop count).toString

/-- A line with a line break at its end. -/
def terminated (line : Octets) : Octets :=
  if line.endsWith "\n" then line else line ++ "\n"

end Utility

end TreeSchema
