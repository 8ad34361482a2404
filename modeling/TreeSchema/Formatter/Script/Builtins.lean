import TreeSchema.Formatter.Script.Expansion
import TreeSchema.Formatter.Utility

/-!
The commands that the shell runs itself because they change its own state. Commands that run other
commands are not among them.
-/

namespace TreeSchema.Script

open Text (Octets)

/-! ### Options -/

/-- The letters of the options and their names. -/
def optionNames : List (Char × String) :=
  [('e', "errexit"), ('f', "noglob"), ('I', "ignoreeof"), ('i', "interactive"), ('m', "monitor"),
    ('n', "noexec"), ('s', "stdin"), ('x', "xtrace"), ('v', "verbose"), ('V', "vi"), ('E', "emacs"),
    ('C', "noclobber"), ('a', "allexport"), ('b', "notify"), ('u', "nounset"), ('p', "privileged")]

/-- Switches an option on or off; nothing if there is none with this letter. -/
def switchOption (options : List Char) (letter : Char) (on : Bool) : Option (List Char) :=
  if optionNames.any (·.1 == letter) then
    let chosen := if on then letter :: options else options.filter (· != letter)
    some ((optionNames.map (·.1)).filter chosen.contains)
  else none

/-- Switches the options of the letters of one argument. A letter that is none is the error. -/
def switchOptions (on : Bool) : List Char → List Char → Except Char (List Char)
  | [], options => .ok options
  | letter :: rest, options =>
    match switchOption options letter on with
    | some options => switchOptions on rest options
    | none => .error letter

/-- What options lead to: new options, and the arguments after them, if these are given. -/
structure OptionsRead where
  options : List Char
  rest? : Option (List Octets)

/-- Reads the options before other arguments. The error is the option that there is none of. -/
def readOptions : (fuel : Nat) → List Char → List Octets → Except Octets OptionsRead
  | 0, options, _ | _, options, [] => .ok ⟨options, none⟩
  | fuel + 1, options, arg :: rest =>
    match arg.toList with
    | ['-', '-'] => .ok ⟨options, some rest⟩
    | ['-'] => .ok ⟨options.filter fun c => c != 'x' && c != 'v', if rest.isEmpty then none else some rest⟩
    | sign :: letters =>
      if sign = '-' || sign = '+' then
        let on := sign == '-'
        if letters.contains 'o' then
          let name := rest.headD ""
          match optionNames.find? (·.2 == name), switchOptions on (letters.filter (· != 'o')) options with
          | _, .error letter => .error s!"-{letter}"
          | none, _ => .error s!"-o {name}"
          | some (letter, _), .ok options =>
            readOptions fuel ((switchOption options letter on).getD options) rest.tail
        else
          match switchOptions on letters options with
          | .error letter => .error s!"-{letter}"
          | .ok options => readOptions fuel options rest
      else .ok ⟨options, some (arg :: rest)⟩
    | [] => .ok ⟨options, some (arg :: rest)⟩

/-- The options and whether they are on, as they are listed. -/
def listOptions (options : List Char) : Octets :=
  let line (name : String) (on : Bool) : Octets :=
    name ++ String.ofList (List.replicate (16 - name.length) ' ') ++ (if on then "on\n" else "off\n")
  "Current option settings\n" ++
    String.join (optionNames.map fun (letter, name) => line name (options.contains letter)) ++
    line "nolog" false ++ line "debug" false

/-- The commands that switch the options to what they are. -/
def optionCommands (options : List Char) : Octets :=
  let line (name : String) (on : Bool) : Octets := (if on then "set -o " else "set +o ") ++ name ++ "\n"
  String.join (optionNames.map fun (letter, name) => line name (options.contains letter)) ++
    line "nolog" false ++ line "debug" false

/-- Programs that run other commands. -/
def runningPrograms : List String := ["sh", "dash", "env", "nohup", "timeout", "xargs"]

namespace Builtin

/-- Reads a number that is not negative. -/
def readNumber (text : Octets) : Run Nat :=
  if !text.isEmpty && text.toList.all Char.isDigit && text.length < 10 then return text.toNat?.getD 0
  else Run.abort s!"Illegal number: {text}"

/-- Writes to the output of the command. -/
def say (text : Octets) : Run Unit := do
  if !(← Run.write 1 text) then
    Run.warn "I/O error"
    Run.setStatus 2

/-! ### Going somewhere else -/

def exit (args : List Octets) : Run Unit := do
  if let status :: _ := args then Run.setStatus ((← readNumber status) % 256)
  throw .exit

def return_ (args : List Octets) : Run Unit := do
  if let status :: _ := args then Run.setStatus ((← readNumber status) % 256)
  throw .returning

/-- Leaves loops, as many as are asked for and as there are. -/
def leave (stop : Nat → Stop) (args : List Octets) : Run Unit := do
  let count ← match args with
    | [] => pure 1
    | count :: _ => readNumber count
  if count = 0 then Run.abort ("Illegal number: " ++ args.headD "")
  Run.setStatus 0
  let loops := (← get).loops
  if loops > 0 then throw (stop (min count loops))

def cd (args : List Octets) : Run Unit := do
  let shell ← get
  let args := args.filter fun arg => !(["-P", "-L", "--"].contains arg)
  let target := match args with
    | [] => (shell.bound? "HOME").getD "."
    | "-" :: _ => (shell.bound? "OLDPWD").getD "."
    | target :: _ => target
  let target : Octets := if target.isEmpty then "." else target
  match shell.store.resolve target.decode with
  | .ok path =>
    if shell.store.get? path matches some .directory then
      let shown (path : Path) : Octets := "/" ++ "/".intercalate (path.map Octets.encode)
      modify fun shell =>
        { shell.setVariable "OLDPWD" (shown shell.store.home) with
          store := { shell.store with home := path } }
      modify fun shell => shell.setVariable "PWD" (shown path)
      if args.head? = some "-" then say (shown path ++ "\n")
      Run.setStatus 0
    else Run.abort s!"can't cd to {target}"
  | .error _ => Run.abort s!"can't cd to {target}"

def pwd : Run Unit := do
  say ("/" ++ "/".intercalate ((← get).store.home.map Octets.encode) ++ "\n")

/-! ### Variables -/

/-- A name and the value that is given to it after an equals sign. -/
def splitAssignment (arg : Octets) : String × Option Octets :=
  let name := arg.toList.takeWhile (· != '=')
  match arg.toList.drop name.length with
  | _ :: value => (String.ofList name, some (String.ofList value))
  | [] => (String.ofList name, none)

/-- A value in single quotes. -/
def quoteValue (value : Octets) : Octets :=
  if value.isEmpty then "''"
  else
    "\"'\"".intercalate ((value.splitOn "'").map fun part => if part.isEmpty then "" else s!"'{part}'")

/-- Marks variables, which may be given values. -/
def mark (change : Variable → Variable) (command : String) (marked : Variable → Bool)
    (args : List Octets) : Run Unit := do
  let args := if args.head? = some "--" then args.tail else args
  if args.isEmpty || args = ["-p"] then
    let listed := (← get).bindings.filter (marked ·.2) |>.mergeSort fun a b => a.1 ≤ b.1
    listed.forM fun (name, entry) =>
      say (match entry.value? with
        | some value => s!"{command} {name}={quoteValue value}\n"
        | none => s!"{command} {name}\n")
  args.forM fun arg => do
    if arg = "-p" then return ()
    let (name, value?) := splitAssignment arg
    if !isName name then Run.abort s!"{name}: bad variable name"
    if let some value := value? then Run.setVariable name value
    modify fun shell =>
      shell.putVariable name
        (some (change ((shell.bindings.lookup name).getD ⟨none, false, false⟩)))
  Run.setStatus 0

def unset (args : List Octets) : Run Unit := do
  let functions := args.head? = some "-f"
  let args := if ["-f", "-v", "--"].contains (args.headD "") then args.tail else args
  args.forM fun name => do
    if functions then
      modify fun shell => { shell with functions := shell.functions.filter (·.1 != name) }
    else
      if !isName name then Run.abort s!"{name}: bad variable name"
      if (← get).isReadOnly name then Run.abort s!"{name}: is read only"
      modify fun shell => shell.putVariable name none
  Run.setStatus 0

/-- Makes variables a function's own. -/
def local_ (args : List Octets) : Run Unit := do
  if (← get).locals.isEmpty then Run.abort "not in a function"
  args.forM fun arg => do
    let (name, value?) := splitAssignment arg
    if !isName name then Run.abort s!"{name}: bad variable name"
    modify fun shell =>
      match shell.locals with
      | frame :: outer =>
        { shell with
          locals :=
            (if frame.any (·.1 == name) then frame
              else (name, shell.bindings.lookup name) :: frame) :: outer }
      | [] => shell
    if let some value := value? then Run.setVariable name value
  Run.setStatus 0

def shift (args : List Octets) : Run Unit := do
  let count ← match args with
    | [] => pure 1
    | count :: _ => readNumber count
  if count > (← get).parameters.length then Run.abort "can't shift that many"
  modify fun shell => { shell with parameters := shell.parameters.drop count }
  Run.setStatus 0

def set_ (args : List Octets) : Run Unit := do
  let shell ← get
  if args.isEmpty then
    (shell.bindings.mergeSort fun a b => a.1 ≤ b.1).forM fun (name, entry) =>
      match entry.value? with
      | some value => say s!"{name}={quoteValue value}\n"
      | none => return ()
  else if args = ["-o"] then say (listOptions shell.options)
  else if args = ["+o"] then say (optionCommands shell.options)
  else
    match readOptions (args.length + 1) shell.options args with
    | .error option => Run.abort s!"Illegal option {option}"
    | .ok read =>
      modify fun shell =>
        { shell with
          options := read.options
          parameters := read.rest?.getD shell.parameters
          scan := if read.rest?.isSome then ⟨1, none⟩ else shell.scan }
  Run.setStatus 0

/-! ### Reading -/

/-- The characters of a line, each with whether a backslash stood before it, whether the line was
ended, and how many characters of the input it took. -/
def readLine (raw : Bool) : (fuel : Nat) → List Char → List (Char × Bool) × Bool × Nat
  | 0, _ | _, [] => ([], false, 0)
  | fuel + 1, c :: rest =>
    if c = '\n' then ([], true, 1)
    else if c = '\\' && !raw then
      match rest with
      | [] => ([], false, 1)
      | d :: more =>
        let (line, ended, count) := readLine raw fuel more
        (if d = '\n' then line else (d, true) :: line, ended, count + 2)
    else
      let (line, ended, count) := readLine raw fuel rest
      (if c = '\x00' then line else (c, false) :: line, ended, count + 1)

def isBlankSeparator (separators : List Char) (item : Char × Bool) : Bool :=
  !item.2 && separators.contains item.1 && [' ', '\t', '\n'].contains item.1

/-- The words of a line, of which the last one is all that is left. -/
def splitLine (separators : List Char) : (count : Nat) → List (Char × Bool) → List Octets
  | 0, _ => []
  | count + 1, line =>
    let isBlank := isBlankSeparator separators
    let isSeparator (item : Char × Bool) : Bool := !item.2 && separators.contains item.1
    let text (items : List (Char × Bool)) : Octets := String.ofList (items.map (·.1))
    let line := line.dropWhile isBlank
    let word := line.takeWhile fun item => !isSeparator item
    let rest := line.drop word.length
    let after := rest.dropWhile isBlank
    let after := match after with
      | item :: more => if isSeparator item then more.dropWhile isBlank else after
      | [] => []
    if count = 0 then
      if after.isEmpty then [text word]
      else [text (line.reverse.dropWhile isBlank).reverse]
    else text word :: splitLine separators count after

def read (args : List Octets) : Run Unit := do
  let raw := args.any fun arg => arg = "-r"
  let names := args.filter fun arg => arg != "-r" && arg != "--"
  if names.isEmpty then Run.abort "arg count"
  let shell ← get
  match shell.inputOf 0 with
  | none => Run.setStatus 1
  | some (number, channel) =>
    let text := (channel.unread shell.store).toList
    let (line, ended, count) := readLine raw (text.length + 1) text
    set { shell with
      channels := shell.channels.setIfInBounds number (channel.advance count) }
    let values := splitLine shell.separators names.length line
    (names.zip values).forM fun (name, value) => do
      if !isName name then Run.abort s!"{name}: bad variable name"
      Run.setVariable name value
    Run.setStatus (if ended then 0 else 1)

/-! ### Signals -/

def signalNames : List (Nat × String) :=
  [(1, "HUP"), (2, "INT"), (3, "QUIT"), (4, "ILL"), (5, "TRAP"), (6, "ABRT"), (7, "BUS"), (8, "FPE"),
    (9, "KILL"), (10, "USR1"), (11, "SEGV"), (12, "USR2"), (13, "PIPE"), (14, "ALRM"), (15, "TERM"),
    (17, "CHLD"), (18, "CONT"), (19, "STOP"), (20, "TSTP"), (21, "TTIN"),
    (22, "TTOU"), (23, "URG"), (24, "XCPU"), (25, "XFSZ"), (26, "VTALRM"), (27, "PROF"),
    (28, "WINCH"), (29, "IO"), (30, "PWR"), (31, "SYS")]

/-- The number of a signal that is given by its number or name; zero is the end of the script. -/
def signalNumber? (text : Octets) : Option Nat :=
  match text.toNat? with
  | some number => if number < 65 then some number else none
  | none =>
    let name := if text.startsWith "SIG" then (text.drop 3).toString else text
    if name = "EXIT" then some 0 else (signalNames.find? (·.2 == name)).map (·.1)

/-- The name of a signal; one that has none is called by its number. -/
def signalName (number : Nat) : Octets :=
  match ((0, "EXIT") :: signalNames).lookup number with
  | some name => name
  | none =>
    if number = 34 then "RTMIN"
    else if number = 64 then "RTMAX"
    else if 34 < number && number < 50 then s!"RTMIN+{number - 34}"
    else if 49 < number && number < 64 then s!"RTMAX-{64 - number}"
    else toString number

/-- Signals that end nothing. -/
def ignoredSignals : List Nat :=
  [0, 17, 18, 23, 28]

/-- Sends a signal to the script itself, whose number is the only one that it knows. -/
def signal (number : Nat) : Run Unit := do
  Run.setStatus 0
  let shell ← get
  match shell.traps.lookup number with
  | some action =>
    unless action.isEmpty do
      modify fun shell => { shell with pending := shell.pending ++ [number] }
  | none =>
    unless ignoredSignals.contains number do
      modify fun shell => { shell with signal? := some number }
      throw .exit

/-- Lists the names of signals, or tells which one a status stands for. -/
def listSignals (args : List Octets) : Run Unit := do
  match args with
  | [] =>
    say "0\n"
    (List.range 64).forM fun number => say (signalName (number + 1) ++ "\n")
  | arg :: _ =>
    let status ← readNumber arg
    let number := if status > 128 then status - 128 else status
    if number = 0 || number > 64 then Run.abort s!"invalid signal number or exit status: {arg}"
    say (signalName number ++ "\n")

def kill (args : List Octets) : Run Unit := do
  let send (number : Nat) (targets : List Octets) : Run Unit := do
    let targets := if targets.head? = some "--" then targets.tail else targets
    if targets.isEmpty then
      Run.abort
        "Usage: kill [-s sigspec | -signum | -sigspec] [pid | job]... or\nkill -l [exitstatus]"
    targets.forM fun target => do
      if target = toString shellNumber then signal number
      else if target.startsWith "%" then Run.abort s!"No such job: {target}"
      else
        let digits := if target.startsWith "-" then (target.drop 1).toString else target
        let _ ← if digits.isEmpty || !digits.toList.all Char.isDigit then
            Run.abort s!"Illegal number: {target}"
          else pure ()
        Run.warn "No such process\n"
        Run.setStatus 1
  Run.setStatus 0
  match args with
  | "-l" :: rest => listSignals rest
  | ["-s"] => Run.abort "No arg for -s option"
  | "-s" :: name :: rest =>
    match signalNumber? name with
    | some number => send number rest
    | none => Run.abort s!"invalid signal number or name: {name}"
  | "--" :: rest => send 15 rest
  | arg :: rest =>
    if arg.startsWith "-" && arg != "-" then
      match signalNumber? (arg.drop 1).toString with
      | some number => send number rest
      | none =>
        let letter := (arg.drop 1 |>.take 1).toString
        Run.abort s!"Illegal option -{letter}"
    else send 15 args
  | [] => send 15 []

def trap (args : List Octets) : Run Unit := do
  let args := if args.head? = some "--" then args.tail else args
  match args with
  | [] =>
    ((← get).traps.mergeSort fun a b => a.1 ≤ b.1).forM fun (number, action) =>
      say s!"trap -- {quoteValue action} {signalName number}\n"
  | action :: signals =>
    let (action?, signals) :=
      if signals.isEmpty then (none, [action])
      else if action = "-" then (none, signals)
      else (some action, signals)
    let numbers := signals.map signalNumber?
    (numbers.takeWhile (·.isSome)).reduceOption.forM fun number => do
      modify fun shell =>
        { shell with
          traps := (action?.map (number, ·)).toList ++ shell.traps.filter (·.1 != number) }
    if let some index := numbers.findIdx? (·.isNone) then
      let name := (signals[index]?).getD ""
      discard (Run.write 2 s!"trap: {name}: bad trap\n")
      return ← Run.setStatus 1
  Run.setStatus 0

/-! ### Options of scripts -/

/-- What an option is, by the letters that are known; a colon after one asks for a value. -/
inductive OptionKind where
  | unknown
  | plain
  | valued
  deriving DecidableEq, Repr

def optionKind (letter : Char) : List Char → OptionKind
  | c :: ':' :: rest => if c = letter then .valued else optionKind letter rest
  | c :: rest => if c = letter then .plain else optionKind letter rest
  | [] => .unknown

/-- The characters of the next option and what follows it in its argument, and the position after
that argument. -/
def nextOption? (scan : OptionScan) (args : List Octets) : Option (List Char × Nat) :=
  let left := match scan.offset? with
    | some offset =>
      if scan.position ≥ 2 then ((args[scan.position - 2]?).getD "").toList.drop offset else []
    | none => []
  if !left.isEmpty then some (left, scan.position)
  else
    match (args[scan.position - 1]?).getD "" |>.toList with
    | ['-', '-'] => none
    | '-' :: c :: rest => some (c :: rest, scan.position + 1)
    | _ => none

/-- Reads the next option of the arguments, or of those of the script, into a variable. -/
def getopts (args : List Octets) : Run Unit := do
  match args with
  | letters :: name :: given =>
    let shell ← get
    let args := if given.isEmpty then shell.parameters else given
    let silent := letters.startsWith ":"
    let known := letters.toList.drop (if silent then 1 else 0)
    let finish (c : Char) (position : Nat) (rest? : Option (List Char)) (status : Nat) :
        Run Unit := do
      let argument := (args[position - 2]?).getD ""
      modify fun shell =>
        { shell.setVariable "OPTIND" (toString position) with
          scan := ⟨position, rest?.map fun rest => argument.length - rest.length⟩ }
      Run.setVariable name (String.singleton c)
      Run.setStatus status
    let report (c : Char) (text : Octets) : Run Unit := do
      if silent then Run.setVariable "OPTARG" (String.singleton c)
      else
        discard (Run.write 2 (text ++ "\n"))
        modify fun shell => shell.putVariable "OPTARG" none
    match nextOption? shell.scan args with
    | none =>
      let atEnd := (args[shell.scan.position - 1]?) = some "--"
      finish '?' (shell.scan.position + if atEnd then 1 else 0) none 1
    | some ([], position) => finish '?' position none 1
    | some (c :: rest, position) =>
      match optionKind c known with
      | .unknown =>
        report c s!"Illegal option -{c}"
        finish '?' position (some rest) 0
      | .plain =>
        Run.setVariable "OPTARG" ""
        finish c position (some rest) 0
      | .valued =>
        match rest, args[position - 1]? with
        | [], none =>
          report c s!"No arg for -{c} option"
          finish (if silent then ':' else '?') position none 0
        | [], some value =>
          Run.setVariable "OPTARG" value
          finish c (position + 1) none 0
        | rest, _ =>
          Run.setVariable "OPTARG" (String.ofList rest)
          finish c position none 0
  | _ => Run.abort "Usage: getopts optstring var [arg...]"

/-! ### Other commands -/

/-- Defines other names for commands, or lists them. -/
def alias_ (args : List Octets) : Run Unit := do
  Run.setStatus 0
  let list (name : String) (value : Octets) : Run Unit := say s!"{name}={quoteValue value}\n"
  if args.isEmpty then
    ((← get).aliases.mergeSort fun a b => a.1 ≤ b.1).forM fun (name, value) => list name value
  args.forM fun arg => do
    match splitAssignment arg with
    | (name, some value) =>
      modify fun shell =>
        { shell with aliases := (name, value) :: shell.aliases.filter (·.1 != name) }
    | (name, none) =>
      match (← get).aliases.lookup name with
      | some value => list name value
      | none =>
        discard (Run.write 2 s!"alias: {name} not found\n")
        Run.setStatus 1

def unalias (args : List Octets) : Run Unit := do
  Run.setStatus 0
  if args = ["-a"] then modify fun shell => { shell with aliases := [] }
  else
    args.forM fun name => do
      if ((← get).aliases.lookup name).isNone then
        discard (Run.write 2 s!"unalias: {name} not found\n")
        Run.setStatus 1
      modify fun shell => { shell with aliases := shell.aliases.filter (·.1 != name) }

/-- The uses that a digit of a mask leaves. -/
def maskUses (digit : Nat) : Octets :=
  (if digit / 4 % 2 = 0 then "r" else "") ++ (if digit / 2 % 2 = 0 then "w" else "") ++
    (if digit % 2 = 0 then "x" else "")

def umask (args : List Octets) : Run Unit := do
  let mask := (← get).mask
  match args with
  | [] => say ("0" ++ String.ofList ((Utility.padLeft 3 (String.ofList (Nat.toDigits 8 mask))).toList.map
      fun c => if c = ' ' then '0' else c) ++ "\n")
  | "-S" :: _ =>
    say s!"u={maskUses (mask / 64)},g={maskUses (mask / 8)},o={maskUses mask}\n"
  | text :: _ =>
    if (text.toList.head?).any Char.isDigit then
      if text.toList.all fun c => '0' ≤ c && c ≤ '7' then
        let value := text.toList.foldl (fun value c => value * 8 + (c.toNat - '0'.toNat)) 0
        modify fun shell => { shell with mask := value % 512 }
      else Run.abort s!"Illegal number: {text}"
  Run.setStatus 0

/-- Looks for programs, so that they are found. -/
def hash (args : List Octets) : Run Unit := do
  Run.setStatus 0
  (args.filter (· != "-r")).forM fun name => do
    if (Utility.find? name).isNone && !runningPrograms.contains name then
      Run.warn s!"{name}: not found"
      Run.setStatus 1

/-- The command of a name that only changes the state of the shell, or looks at it. -/
def find? : String → Option (List Octets → Run Unit)
  | ":" | "true" => some fun _ => Run.setStatus 0
  | "false" => some fun _ => Run.setStatus 1
  | "exit" => some exit
  | "return" => some return_
  | "break" => some (leave .breaking)
  | "continue" => some (leave .continuing)
  | "cd" | "chdir" => some cd
  | "pwd" => some fun _ => do
    pwd
    Run.setStatus 0
  | "export" =>
    some (mark (fun entry => { entry with exported := true }) "export" (·.exported))
  | "readonly" =>
    some (mark (fun entry => { entry with readOnly := true }) "readonly" (·.readOnly))
  | "unset" => some unset
  | "local" => some local_
  | "shift" => some shift
  | "set" => some set_
  | "read" => some read
  | "kill" => some kill
  | "trap" => some trap
  | "getopts" => some getopts
  | "umask" => some umask
  | "alias" => some alias_
  | "unalias" => some unalias
  | "hash" => some hash
  | "fg" | "bg" => some fun _ => Run.abort "No current job"
  | "times" => some fun _ => do
    say "0m0.000000s 0m0.000000s\n0m0.000000s 0m0.000000s\n"
    Run.setStatus 0
  | "ulimit" => some fun _ => do
    say "unlimited\n"
    Run.setStatus 0
  | "jobs" => some fun _ => Run.setStatus 0
  | _ => none

end Builtin

end TreeSchema.Script
