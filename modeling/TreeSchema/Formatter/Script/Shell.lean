import TreeSchema.Formatter.Script.Arithmetic
import TreeSchema.Formatter.Script.Reading
import TreeSchema.Formatter.Utility.Basic

/-!
The state of a running script: its files, its variables, and where its descriptors lead. What the
descriptors lead to is shared with the commands that a script starts, as the files are; everything
else they have for themselves.
-/

namespace TreeSchema.Script

open Text (Octets)

/-! ### Channels -/

/-- What a descriptor can lead to. -/
inductive Channel where
  /-- A text to read, of which this is left. -/
  | source (left : Octets)
  /-- Collects what is written. -/
  | collector (written : Octets)
  | null
  /-- A file, and where in it is read or written. -/
  | file (path : Path) (offset : Nat) (append : Bool)
  /-- A file that no path leads to any more. -/
  | detached (content : Octets) (offset : Nat)

/-- A text with another one written over it from an offset. -/
def overwrite (content : Octets) (offset : Nat) (text : Octets) : Octets :=
  let characters := content.toList
  String.ofList (characters.take offset ++ List.replicate (offset - characters.length) '\x00') ++
    text ++ String.ofList (characters.drop (offset + text.length))

/-- What is left to read. -/
def Channel.unread (store : Store) : Channel → Octets
  | source left => left
  | file path offset _ =>
    match store.get? path with
    | some (.file content) => ((Octets.ofBytes content).drop offset).toString
    | _ => ""
  | detached content offset => (content.drop offset).toString
  | _ => ""

/-- Goes over so much of what is left to read. -/
def Channel.advance (count : Nat) : Channel → Channel
  | source left => .source (left.drop count).toString
  | file path offset append => .file path (offset + count) append
  | detached content offset => .detached content (offset + count)
  | channel => channel

/-- Writes a text; nothing if the channel is only read. -/
def Channel.write? (store : Store) (text : Octets) : Channel → Option (Store × Channel)
  | source _ => none
  | collector written => some (store, .collector (written ++ text))
  | null => some (store, .null)
  | file path offset append =>
    match store.get? path with
    | some (.file content) =>
      let old := Octets.ofBytes content
      let start := if append then old.length else offset
      some (store.put path (.file (overwrite old start text).bytes),
        .file path (start + text.length) append)
    | _ => some (store, .file path offset append)
  | detached content offset =>
    some (store, .detached (overwrite content offset text) (offset + text.length))

/-- The channel after files have been changed. A file that is gone keeps its content. -/
def Channel.settle (before after : Store) : Channel → Channel
  | file path offset append =>
    match before.get? path, after.get? path with
    | _, some (.file _) | some .directory, some .directory => .file path offset append
    | some (.file content), _ =>
      .detached (Octets.ofBytes content) (if append then content.size else offset)
    | _, _ => .null
  | channel => channel

/-! ### The shell -/

structure Variable where
  value? : Option Octets
  exported : Bool
  readOnly : Bool
  deriving DecidableEq, Repr

/-- Where options are looked for: the position of an argument, and how many of its characters have
been read if it is not done. -/
structure OptionScan where
  position : Nat
  offset? : Option Nat
  deriving DecidableEq, Repr

structure Function where
  line : Nat
  body : Command

structure Shell where
  store : Store
  channels : Array Channel
  /-- The channels that descriptors lead to. -/
  descriptors : List (Nat × Nat)
  /-- What the script is called. -/
  name : Octets
  parameters : List Octets
  bindings : List (String × Variable)
  functions : List (String × Function)
  /-- The texts that redirections lead to, by their numbers. -/
  documents : Array Word
  options : List Char
  status : Nat
  /-- The status of the last command in a word of the command that runs. -/
  outputStatus : Nat
  line : Nat
  /-- The command of the shell itself that runs. -/
  running? : Option Octets
  /-- How many loops the command that runs is in. -/
  loops : Nat
  /-- For each function that runs, the variables as they were that are its own. -/
  locals : List (List (String × Option Variable))
  /-- What is done at a signal, or at the end, which has the number zero. -/
  traps : List (Nat × Octets)
  /-- Signals whose actions have not been run yet. -/
  pending : List Nat
  /-- The commands that have been run beside the script, the last one first, by their numbers with
  how they have ended. -/
  jobs : List (Nat × Nat)
  aliases : List (String × Octets)
  scan : OptionScan
  /-- What new files may not be used for, in digits below eight. -/
  mask : Nat
  /-- The signal that has ended the whole script. -/
  signal? : Option Nat

/-- Why a command does not go on to the next one. -/
inductive Stop where
  | exit
  /-- An error of the shell itself. -/
  | fault
  | returning
  | breaking (loops : Nat)
  | continuing (loops : Nat)
  deriving DecidableEq, Repr

abbrev Run := ExceptT Stop (StateM Shell)

namespace Shell

def inputOf (shell : Shell) (descriptor : Nat) : Option (Nat × Channel) := do
  let number ← shell.descriptors.lookup descriptor
  let channel ← shell.channels[number]?
  return (number, channel)

/-- Makes a descriptor lead to a channel. -/
def setDescriptor (shell : Shell) (descriptor number : Nat) : Shell :=
  { shell with descriptors := (descriptor, number) :: shell.descriptors.filter (·.1 != descriptor) }

def closeDescriptor (shell : Shell) (descriptor : Nat) : Shell :=
  { shell with descriptors := shell.descriptors.filter (·.1 != descriptor) }

/-- Adds a channel; the answer holds its number. -/
def addChannel (shell : Shell) (channel : Channel) : Nat × Shell :=
  (shell.channels.size, { shell with channels := shell.channels.push channel })

/-- What a channel has collected. -/
def collected (shell : Shell) (number : Nat) : Octets :=
  match shell.channels[number]? with
  | some (.collector written) => written
  | _ => ""

/-- Changes the files and what leads to them. -/
def setStore (shell : Shell) (store : Store) : Shell :=
  { shell with store, channels := shell.channels.map (Channel.settle shell.store store) }

def bound? (shell : Shell) (name : String) : Option Octets :=
  (shell.bindings.lookup name).bind (·.value?)

def isReadOnly (shell : Shell) (name : String) : Bool :=
  (shell.bindings.lookup name).any (·.readOnly)

/-- Puts a variable in the place of the one with its name. -/
def putVariable (shell : Shell) (name : String) (entry : Option Variable) : Shell :=
  { shell with
    bindings := (entry.map (name, ·)).toList ++ shell.bindings.filter (·.1 != name) }

/-- Gives a variable a value. -/
def setVariable (shell : Shell) (name : String) (value : Octets) : Shell :=
  let old := (shell.bindings.lookup name).getD ⟨none, false, false⟩
  let changed := shell.putVariable name
    (some { old with value? := some value, exported := old.exported || shell.options.contains 'a' })
  if name = "OPTIND" then { changed with scan := ⟨max 1 (value.toNat?.getD 1), none⟩ } else changed

def hasOption (shell : Shell) (option : Char) : Bool :=
  shell.options.contains option

/-- The variables that every shell has. -/
def ownVariables : List (String × Variable) :=
  [("IFS", " \t\n"), ("OPTIND", "1"), ("PS1", "# "), ("PS2", "> "), ("PS4", "+ ")].map
    fun (name, value) => (name, ⟨some value, false, false⟩)

/-- Characters that split words. -/
def separators (shell : Shell) : List Char :=
  ((shell.bound? "IFS").getD " \t\n").toList

/-- The variables that commands are given. -/
def environment (shell : Shell) : List (String × Octets) :=
  shell.bindings.filterMap fun (name, entry) =>
    if entry.exported then entry.value?.map (name, ·) else none

end Shell

/-! ### Writing and failing -/

namespace Run

def setStatus (status : Nat) : Run Unit :=
  modify fun shell => { shell with status }

/-- Writes to a descriptor. The answer is whether it can be written to. -/
def write (descriptor : Nat) (text : Octets) : Run Bool :=
  modifyGet fun shell =>
    match shell.inputOf descriptor with
    | none => (false, shell)
    | some (number, channel) =>
      match channel.write? shell.store text with
      | none => (false, shell)
      | some (store, channel) =>
        (true, { shell with store, channels := shell.channels.setIfInBounds number channel })

/-- Reports an error of the shell itself. -/
def warn (text : Octets) : Run Unit := do
  let shell ← get
  let command := match shell.running? with
    | some command => s!"{command}: "
    | none => ""
  let _ ← write 2 s!"{shell.name}: {shell.line}: {command}{text}\n"

/-- Reports an error and stops. -/
def abort {α : Type} (text : Octets) : Run α := do
  warn text
  setStatus 2
  throw .fault

/-- Gives a variable a value unless it is read-only. -/
def setVariable (name : String) (value : Octets) : Run Unit := do
  if (← get).isReadOnly name then abort s!"{name}: is read only"
  modify fun shell => shell.setVariable name value

/-- Runs something; the answer holds why it has stopped, if it has. -/
def attempt {α : Type} (run : Run α) : Run (Except Stop α) :=
  ExceptT.mk do
    let result ← run.run
    return .ok result

/-- Runs something, and something after it even if it stops. -/
def after {α : Type} (run : Run α) (finish : Run Unit) : Run α := do
  let result ← attempt run
  finish
  match result with
  | .ok value => return value
  | .error stop => throw stop

end Run

end TreeSchema.Script
