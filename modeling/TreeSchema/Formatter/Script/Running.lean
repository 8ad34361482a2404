import TreeSchema.Formatter.Script.Builtins

/-!
Running scripts. Running a command inside another one is left to a parameter, so that every function
but the last is a plain one; the last one ties them together and bounds how deep commands run in
each other, and how often a loop is run.
-/

namespace TreeSchema.Script

open Text (Octets)

/-! ### Redirections -/

/-- The text that a redirection to a file is refused with. -/
def openFault (reading : Bool) (target : Octets) (fault : IoFault) : Octets :=
  let reason :=
    match fault, reading with
    | .notFound, true | .notDirectory, true => "No such file"
    | .notFound, false | .notDirectory, false => "Directory nonexistent"
    | fault, _ => fault.reason
  if reading then s!"cannot open {target}: {reason}" else s!"cannot create {target}: {reason}"

/-- The descriptor that a path of the system stands for. -/
def standardDescriptor? (target : Octets) : Option Nat :=
  match target with
  | "/dev/stdin" | "/dev/fd/0" => some 0
  | "/dev/stdout" | "/dev/fd/1" => some 1
  | "/dev/stderr" | "/dev/fd/2" => some 2
  | _ => none

/-- Opens a file that is at a path. -/
def channelAt (store : Store) (target : Octets) (append : Bool) : Channel :=
  match store.resolve target.decode with
  | .ok path =>
    match store.get? path with
    | some (.file _) | some .directory => .file path 0 append
    | _ => .null
  | .error _ => .null

/-- Opens a file. The error is what is reported. -/
def openFile (kind : RedirectKind) (target : Octets) (shell : Shell) :
    Except Octets (Shell × Channel) :=
  let store := shell.store
  let written (result : Except IoFault Store) (append : Bool) : Except Octets (Shell × Channel) :=
    match result with
    | .ok store => .ok (shell.setStore store, channelAt store target append)
    | .error fault => .error (openFault false target fault)
  match kind with
  | .append | .readWrite =>
    if store.isFile target.decode then .ok (shell, channelAt store target (kind == .append))
    else written (store.write target.decode .empty) (kind == .append)
  | .write =>
    if shell.hasOption 'C' && store.isFile target.decode then
      .error (openFault false target .alreadyExists)
    else written (store.write target.decode .empty) false
  | .overwrite => written (store.write target.decode .empty) false
  | _ =>
    match store.read target.decode with
    | .ok _ | .error .isDirectory => .ok (shell, channelAt store target false)
    | .error fault => .error (openFault true target fault)

/-- A redirection whose target is known. -/
inductive Opening where
  | file (descriptor : Nat) (kind : RedirectKind) (target : Octets)
  | text (descriptor : Nat) (text : Octets)

/-- Makes one redirection. The error is what is reported. -/
def Opening.make (shell : Shell) : Opening → Except Octets Shell
  | .text descriptor content =>
    let (number, shell) := shell.addChannel (.source content)
    .ok (shell.setDescriptor descriptor number)
  | .file descriptor kind target =>
    let other? := if kind = .duplicate then target.toNat? else standardDescriptor? target
    match kind, target, other? with
    | .duplicate, "-", _ => .ok (shell.closeDescriptor descriptor)
    | kind, target, some other =>
      match shell.descriptors.lookup other with
      | some number => .ok (shell.setDescriptor descriptor number)
      | none =>
        .error (if kind = .duplicate then s!"{other}: Bad file descriptor"
          else openFault (kind == .read) target .notFound)
    | kind, target, none =>
      match openFile kind target shell with
      | .ok (shell, channel) =>
        let (number, shell) := shell.addChannel channel
        .ok (shell.setDescriptor descriptor number)
      | .error report => .error report

section

-- Runs a command, of which a failure may be tested.
variable (recur : Command → (tested : Bool) → Run Unit)

/-! ### Shells in shells -/

/-- Runs the commands of a text one line after the other. -/
def runText (text : Octets) (tested : Bool) : Run Unit := do
  let script := Contents.read (← get).documents.size text
  modify fun shell => { shell with documents := shell.documents ++ script.documents.toArray }
  script.commands.forM fun command => recur command tested
  match script.fault? with
  | none => return ()
  | some fault =>
    modify fun shell => { shell with line := fault.line }
    Run.abort s!"Syntax error: {fault.message}"

/-- Runs the action for the end of a shell, if there is one. -/
def runExitTrap : Run Unit := do
  let shell ← get
  match shell.traps.lookup 0 with
  | none => return ()
  | some action =>
    let status := shell.status
    set { shell with traps := shell.traps.filter (·.1 != 0), loops := 0 }
    match ← Run.attempt (runText recur action false) with
    | .ok _ => Run.setStatus status
    | .error .exit => return ()
    | .error _ => return ()

/-- Runs a whole script, whatever it stops for. -/
def runToEnd (run : Run Unit) : Run Unit := do
  let _ ← Run.attempt run
  if (← get).signal?.isNone then
    let _ ← Run.attempt (runExitTrap recur)

/-- Runs something in a shell of its own, of which the files, the channels and the status are
kept. -/
def inSubshell (run : Run Unit) : Run Unit := do
  let outer ← get
  modify fun shell => { shell with traps := shell.traps.filter fun (_, action) => action.isEmpty }
  runToEnd recur run
  modify fun shell =>
    { outer with
      store := { shell.store with home := outer.store.home }
      channels := shell.channels, status := shell.status, signal? := shell.signal? }
  if (← get).signal?.isSome then throw .exit

/-- Runs something in a shell of its own with its output collected. -/
def collect (run : Run Unit) : Run Octets := do
  let (number, shell) := (← get).addChannel (.collector "")
  set shell
  inSubshell recur do
    modify fun shell => shell.setDescriptor 1 number
    run
  return (← get).collected number

/-- The output of a command in a word. -/
def outputOf (command : Command) : Run Octets := do
  let status := (← get).status
  let output ← collect recur do
    Run.setStatus 0
    recur command false
  modify fun shell => { shell with outputStatus := shell.status, status }
  return output

/-! ### Redirections of commands -/

/-- The targets of redirections. -/
def openings : List Redirect → Run (List Opening)
  | [] => return []
  | .document descriptor number :: rest => do
    let word := ((← get).documents[number]?).getD []
    let text ← expandDocument (outputOf recur) word
    return .text descriptor text :: (← openings rest)
  | .toFile descriptor kind target :: rest => do
    let text ← expandText (outputOf recur) target
    if kind = .duplicate && text != "-" && !(text.length = 1 && text.toList.all Char.isDigit) then
      Run.abort "Syntax error: Bad fd number"
    return .file descriptor kind text :: (← openings rest)

/-- Makes redirections; the answer is whether they all could be made. -/
def redirect (redirects : List Redirect) : Run Bool := do
  let found ← openings recur redirects
  let shell ← get
  let rec go (shell : Shell) : List Opening → Shell × Option Octets
    | [] => (shell, none)
    | opening :: rest =>
      match opening.make shell with
      | .ok shell => go shell rest
      | .error text => (shell, some text)
  match go shell found with
  | (shell, none) =>
    set shell
    return true
  | (changed, some text) =>
    set { changed with descriptors := shell.descriptors }
    Run.warn text
    Run.setStatus 2
    return false

/-- Runs something with redirections, and goes back to the descriptors that were there before. -/
def withRedirects (redirects : List Redirect) (run : Bool → Run Unit) : Run Unit := do
  let descriptors := (← get).descriptors
  Run.after
    (do
      let made ← redirect recur redirects
      run made)
    (modify fun shell => { shell with descriptors })

/-! ### Programs -/

/-- Where programs are looked for. -/
def directories : List String := ["/bin/", "/usr/bin/"]

/-- The name of a program that is called by it, or by the path of a directory for programs. -/
def programName (name : Octets) : Octets :=
  match directories.find? fun directory => name.startsWith directory with
  | some directory => (name.drop directory.length).toString
  | none => name

/-- Why a path is no program: a status and what is reported. -/
def pathFault (store : Store) (name : Octets) : Nat × Octets :=
  match store.resolve name.decode with
  | .ok path =>
    if (store.get? path).isSome then (126, s!"{name}: Permission denied")
    else (127, s!"{name}: not found")
  | .error .notDirectory => (126, s!"{name}: not found")
  | .error _ => (127, s!"{name}: not found")

/-- Runs a program on the input of the command. -/
def runUtility (name : Octets) (run : Utility) (args : List Octets) : Run Unit := do
  let shell ← get
  let (input, source?) := match shell.inputOf 0 with
    | some (_, channel) =>
      (channel.unread shell.store, match channel with
        | .file path _ _ => some path
        | _ => none)
    | none => ("", none)
  let target? := match shell.inputOf 1 with
    | some (_, .file path offset append) =>
      match shell.store.get? path with
      | some (.file content) => some (path, if append then content.size else offset)
      | _ => none
    | _ => none
  let (_, process) := (run args).run
    ⟨name, shell.store, shell.environment, input, source?, target?, [], 0⟩
  modify fun shell => shell.setStore process.store
  if let some (number, channel) := shell.inputOf 0 then
    modify fun shell =>
      { shell with
        channels := shell.channels.setIfInBounds number
          (channel.advance (input.length - process.input.length)) }
  process.written.forM fun written => do
    let _ ← match written with
      | .output text => Run.write 1 text
      | .errors text => Run.write 2 text
  Run.setStatus process.status

/-- The programs that the shell has itself. They report errors as the shell does. -/
def ownUtility? : String → Option Utility
  | "echo" => some Utility.echo
  | "printf" => some Utility.printf
  | "test" => some Utility.test
  | "[" => some Utility.bracketTest
  | _ => none

/-- The name under which a command of the shell reports errors. -/
def ownName (shell : Shell) (name : Octets) : Octets :=
  s!"{shell.name}: {shell.line}: {name}"

/-- Runs a command of the shell itself, of which an error stops nothing unless the command is
special. -/
def runOwn (name : Octets) (run : Run Unit) : Run Unit := do
  let outer := (← get).running?
  modify fun shell => { shell with running? := some name }
  let result ← Run.attempt run
  modify fun shell => { shell with running? := outer }
  match result with
  | .ok _ => return ()
  | .error .fault => unless !specialBuiltins.contains name do throw .fault
  | .error stop => throw stop

/-! ### Calling commands -/

/-- A shell that is started as a program: the parts of the state that it has from the outside. -/
def Shell.start (shell : Shell) : Shell :=
  { shell with
    name := "sh", parameters := [], functions := [], options := [], status := 0, outputStatus := 0
    line := 0, running? := none, loops := 0, locals := [], pending := [], signal? := none
    bindings :=
      ((shell.bindings.filter (·.2.exported)).map fun (name, entry) =>
        (name, { entry with readOnly := false })) ++
        Shell.ownVariables.filter fun (name, _) =>
          !(shell.bindings.lookup name).any (·.exported)
    jobs := [], aliases := [], scan := ⟨1, none⟩
    traps := shell.traps.filter fun (_, action) => action.isEmpty }

/-- What a shell is asked to run. -/
inductive Task where
  | text (text : Octets) (name : Option Octets) (parameters : List Octets)
  | file (path : Octets) (parameters : List Octets)
  | input (parameters : List Octets)

/-- Takes the letter out of options that asks for a command as the next argument. -/
def takeCommandOption : List Octets → Bool × List Octets
  | [] => (false, [])
  | arg :: rest =>
    match arg.toList with
    | '-' :: c :: more =>
      if arg = "--" then (false, arg :: rest)
      else
        let letters := (c :: more).filter (· != 'c')
        let (later, others) :=
          if (c :: more).contains 'o' then
            let (later, others) := takeCommandOption rest.tail
            (later, rest.take 1 ++ others)
          else takeCommandOption rest
        let found := (c :: more).contains 'c'
        (found || later,
          if letters.isEmpty then (if found then others else arg :: others)
          else String.ofList ('-' :: letters) :: others)
    | '+' :: _ =>
      let (later, others) := takeCommandOption rest
      (later, arg :: others)
    | _ => (false, arg :: rest)
  termination_by args => args.length

/-- The options of a shell and what it is asked to run. The error is what is reported. -/
def readShellArguments (args : List Octets) : Except Octets (List Char × Task) := do
  let (isCommand, args) := takeCommandOption args
  match readOptions (args.length + 1) [] args with
  | .error option => throw s!"Illegal option {option}"
  | .ok ⟨options, rest?⟩ =>
    match isCommand, rest?.getD [] with
    | true, [] => throw "-c requires an argument"
    | true, [text] => return (options, .text text none [])
    | true, text :: name :: parameters => return (options, .text text (some name) parameters)
    | false, [] => return (options, .input [])
    | false, path :: parameters =>
      return (options, if options.contains 's' then .input (path :: parameters) else .file path parameters)

/-- Reports why a shell does not start. -/
def refuse (text : Octets) : Run Unit := do
  let _ ← Run.write 2 s!"{(← get).name}: 0: {text}\n"
  Run.setStatus 2

/-- Runs a shell with its arguments in place of the one that runs. -/
def becomeShell (name : Octets) (args : List Octets) : Run Unit := do
  modify fun shell => { shell.start with name }
  match readShellArguments args with
  | .error text => refuse text
  | .ok (options, task) =>
    modify fun shell => { shell with options }
    match task with
    | .text text name? parameters =>
      modify fun shell => { shell with name := name?.getD shell.name, parameters }
      runToEnd recur (runText recur text false)
    | .file path parameters =>
      match (← get).store.read path.decode with
      | .error .isDirectory => return ()
      | .error fault => refuse (openFault true path fault)
      | .ok content =>
        modify fun shell => { shell with name := path, parameters }
        runToEnd recur (runText recur (.ofBytes content) false)
    | .input parameters =>
      let shell ← get
      modify fun shell => { shell with parameters }
      match shell.inputOf 0 with
      | none => return ()
      | some (number, channel) =>
        let text := channel.unread shell.store
        set { shell with
          parameters
          channels := shell.channels.setIfInBounds number (channel.advance text.length) }
        runToEnd recur (runText recur text false)

/-- How the shell reports that a command was ended by a signal. -/
def signalReport? (number : Nat) : Option Octets :=
  match number with
  | 1 => some "Hangup"
  | 3 => some "Quit"
  | 6 => some "Aborted"
  | 9 => some "Killed"
  | 10 => some "User defined signal 1"
  | 11 => some "Segmentation fault"
  | 12 => some "User defined signal 2"
  | 14 => some "Alarm clock"
  | 15 => some "Terminated"
  | _ => none

/-- Runs a shell as a program. -/
def runShell (name : Octets) (args : List Octets) : Run Unit := do
  let outer ← get
  becomeShell recur name args
  let inner ← get
  set { outer with
    store := { inner.store with home := outer.store.home }
    channels := inner.channels, status := inner.status }
  match inner.signal? with
  | none => return ()
  | some number =>
    Run.setStatus (128 + number)
    match signalReport? number with
    | some text =>
      let _ ← Run.write 2 s!"{text}\n"
    | none => return ()

/-- Splits the input of a command into arguments for another one. Blanks in quotes, and after a
backslash, do not split. -/
def splitArguments (input : Octets) : List Octets :=
  (go none none input.toList).map String.ofList
where
  go (quote? : Option Char) (current? : Option (List Char)) : List Char → List (List Char)
    | [] => current?.toList
    | c :: rest =>
      match quote? with
      | some '\\' => go none (some (current?.getD [] ++ [c])) rest
      | some quote =>
        if c = quote then go none current? rest
        else go quote? (some (current?.getD [] ++ [c])) rest
      | none =>
        if [' ', '\t', '\n'].contains c then current?.toList ++ go none none rest
        else if c = '\\' then go (some c) current? rest
        else if c = '\'' || c = '"' then go (some c) (some (current?.getD [])) rest
        else go none (some (current?.getD [] ++ [c])) rest

/-- Why a name is no program: a status and a reason, by the rules of a program that runs it. -/
def programFault? (store : Store) (name : Octets) : Option (Nat × Octets) :=
  if (Utility.find? (programName name)).isSome || runningPrograms.contains (programName name) then none
  else if !name.toList.contains '/' then some (127, IoFault.notFound.reason)
  else
    match store.resolve name.decode with
    | .ok path =>
      if (store.get? path).isSome then some (126, IoFault.denied.reason)
      else some (127, IoFault.notFound.reason)
    | .error fault => some (if fault = .notFound then 127 else 126, fault.reason)

/-- Where the words of an argument are put in the arguments of a command. -/
structure ArgumentOptions where
  /-- Whether nothing is run without arguments. -/
  nonempty : Bool
  /-- Whether arguments end at zero characters only. -/
  zero : Bool
  /-- How many arguments a command is given at most. -/
  count? : Option Nat
  /-- A text in the place of which each line is put. -/
  placeholder? : Option Octets

/-- Reads the options of the command that runs another one with the words of its input. -/
def readArgumentOptions (options : ArgumentOptions) :
    (fuel : Nat) → List Octets → ArgumentOptions × List Octets
  | 0, args | _, args@([]) => (options, args)
  | fuel + 1, arg :: rest =>
    match arg with
    | "--" => (options, rest)
    | "-r" | "--no-run-if-empty" => readArgumentOptions { options with nonempty := true } fuel rest
    | "-0" | "--null" => readArgumentOptions { options with zero := true } fuel rest
    | "-n" =>
      readArgumentOptions { options with count? := (rest.headD "").toNat? } fuel rest.tail
    | "-I" => readArgumentOptions { options with placeholder? := rest.head? } fuel rest.tail
    | arg =>
      if arg.startsWith "-n" then
        readArgumentOptions { options with count? := (arg.drop 2).toNat? } fuel rest
      else if arg.startsWith "-I" then
        readArgumentOptions { options with placeholder? := some (arg.drop 2).toString } fuel rest
      else (options, arg :: rest)

/-- The commands that the input of a command leads to. -/
def ArgumentOptions.commands (options : ArgumentOptions) (input : Octets) (args : List Octets) :
    List (List Octets) :=
  match options.placeholder? with
  | some placeholder =>
    let lines := ((if options.zero then input.splitOn "\x00" else input.splitOn "\n").map fun line =>
      String.ofList (line.toList.dropWhile fun c => c = ' ' || c = '\t')).filter (!·.isEmpty)
    lines.map fun line => args.map fun arg => arg.replace placeholder line
  | none =>
    let words := if options.zero then
        (if input.endsWith "\x00" then (input.splitOn "\x00").dropLast
          else if input.isEmpty then [] else input.splitOn "\x00")
      else splitArguments input
    if words.isEmpty then (if options.nonempty then [] else [args])
    else
      match options.count? with
      | none | some 0 => [args ++ words]
      | some count => (chunks words.length count words).map (args ++ ·)
where
  chunks : (fuel : Nat) → Nat → List Octets → List (List Octets)
    | 0, _, _ | _, _, [] => []
    | fuel + 1, count, words => words.take count :: chunks fuel count (words.drop count)

/-- Runs a program of a name. Some programs run others. -/
def runProgram (fuel : Nat) (name : Octets) (args : List Octets) : Run Unit := do
  match fuel with
  | 0 => Run.setStatus 126
  | fuel + 1 =>
    /- Runs a program for another one, which reports it if there is no such program. -/
    let runFor (report : Octets → Octets → Octets) (program : Octets) (args : List Octets) :
        Run Unit := do
      match programFault? (← get).store program with
      | none => runProgram fuel program args
      | some (status, reason) =>
        discard (Run.write 2 (report program reason ++ "\n"))
        Run.setStatus status
    match programName name, args with
    | "sh", args | "dash", args => runShell recur name args
    | "env", args => runEnvironment runFor name args
    | "nohup", program :: args =>
      runFor (fun program reason => s!"{name}: failed to run command \x27{program}\x27: {reason}")
        program args
    | "timeout", _ :: program :: args =>
      runFor (fun program reason => s!"{name}: failed to run command \x27{program}\x27: {reason}")
        program args
    | "xargs", args => runWithInput runFor name args
    | program, args =>
      match Utility.find? program with
      | some run => runUtility name run args
      | none =>
        if name.toList.contains '/' then
          let (status, text) := pathFault (← get).store name
          Run.warn text
          Run.setStatus status
        else if name.isEmpty then
          Run.warn ": Permission denied"
          Run.setStatus 127
        else
          Run.warn s!"{name}: not found"
          Run.setStatus 127
where
  /-- Runs a program with other variables. -/
  runEnvironment (runFor : (Octets → Octets → Octets) → Octets → List Octets → Run Unit)
      (name : Octets) (args : List Octets) : Run Unit := do
    let outer := (← get).bindings
    match clearVariables (args.length + 1) outer args with
    | .error option =>
      discard (Run.write 2
        s!"{name}: invalid option -- \x27{option}\x27\nTry \x27{name} --help\x27 for more information.\n")
      Run.setStatus 125
    | .ok (bindings, args) =>
      let assignments := args.takeWhile fun arg => arg.toList.contains '='
      modify fun shell => { shell with bindings }
      assignments.forM fun arg => do
        let (name, value?) := Builtin.splitAssignment arg
        modify fun shell => shell.putVariable name (some ⟨some (value?.getD ""), true, false⟩)
      match args.drop assignments.length with
      | [] =>
        ((← get).environment.map fun (name, value) => s!"{name}={value}\n").forM fun line => do
          discard (Run.write 1 line)
        Run.setStatus 0
      | program :: args =>
        runFor (fun program reason => s!"{name}: \x27{program}\x27: {reason}") program args
      modify fun shell => { shell with bindings := outer }
  /-- Takes the options that clear variables. The error is the letter of another option. -/
  clearVariables : (fuel : Nat) → List (String × Variable) → List Octets →
      Except Char (List (String × Variable) × List Octets)
    | 0, bindings, args | _, bindings, args@([]) => .ok (bindings, args)
    | fuel + 1, bindings, arg :: rest =>
      let hidden := bindings.filter fun (_, entry) => !entry.exported
      match arg, rest with
      | "-i", rest | "-", rest | "--ignore-environment", rest => clearVariables fuel hidden rest
      | "-u", name :: rest => clearVariables fuel (bindings.filter (·.1 != name)) rest
      | "--", rest => .ok (bindings, rest)
      | arg, rest =>
        match arg.toList with
        | '-' :: c :: _ => .error c
        | _ => .ok (bindings, arg :: rest)
  /-- Runs a program with the words of the input as more arguments. -/
  runWithInput (runFor : (Octets → Octets → Octets) → Octets → List Octets → Run Unit)
      (name : Octets) (args : List Octets) : Run Unit := do
    let shell ← get
    let input := match shell.inputOf 0 with
      | some (_, channel) => channel.unread shell.store
      | none => ""
    if let some (number, channel) := shell.inputOf 0 then
      set { shell with
        channels := shell.channels.setIfInBounds number (channel.advance input.length) }
    let (options, args) := readArgumentOptions ⟨false, false, none, none⟩ (args.length + 1) args
    let args := if args.isEmpty then ["echo"] else args
    Run.setStatus 0
    let missing := (args.head?.bind (programFault? shell.store)).isSome
    let commands := options.commands input args
    let commands := if missing then commands.take 1 else commands
    let failed ← commands.foldlM (fun failed command => do
      runFor (fun program reason => s!"{name}: {program}: {reason}") (command.headD "") command.tail
      return failed || (← get).status != 0) false
    unless missing do Run.setStatus (if failed then 123 else 0)

/-- Calls a function. Its parameters and its own variables end with it. -/
def callFunction (function : Function) (args : List Octets) (tested : Bool) : Run Unit := do
  let outer ← get
  set { outer with
    parameters := args, loops := 0, locals := [] :: outer.locals, scan := ⟨1, none⟩ }
  Run.after
    (do
      match ← Run.attempt (recur function.body tested) with
      | .ok _ | .error .returning => return ()
      | .error stop => throw stop)
    (modify fun shell =>
      let restored := (shell.locals.headD []).foldl (fun shell (name, entry) =>
        shell.putVariable name entry) shell
      { restored with
        parameters := outer.parameters, loops := outer.loops, locals := outer.locals
        scan := outer.scan })

/-- Runs the commands of a file in the shell that runs. -/
def runSourced (args : List Octets) : Run Unit := do
  match args with
  | [] => Run.setStatus 0
  | path :: _ =>
    if !path.toList.contains '/' then Run.abort s!"{path}: not found"
    match (← get).store.read path.decode with
    | .error fault => Run.abort (openFault true path fault)
    | .ok content =>
      modify fun shell => { shell with running? := some path }
      Run.setStatus 0
      match ← Run.attempt (runText recur (.ofBytes content) false) with
      | .ok _ | .error .returning => return ()
      | .error stop => throw stop

/-- What a name is to the shell. -/
def described (shell : Shell) (name : Octets) : Option (Octets × Octets) :=
  if reservedWords.contains name then some (name, s!"{name} is a shell keyword")
  else if specialBuiltins.contains name then some (name, s!"{name} is a special shell builtin")
  else if (shell.functions.lookup name).isSome then some (name, s!"{name} is a shell function")
  else if (Builtin.find? name).isSome || (ownUtility? name).isSome ||
      ["command", "type", "wait"].contains name then
    some (name, s!"{name} is a shell builtin")
  else if (Utility.find? name).isSome || runningPrograms.contains name then
    some (s!"/usr/bin/{name}", s!"{name} is /usr/bin/{name}")
  else if name.toList.contains '/' && (shell.store.lookup? name.decode).isSome then
    some (name, s!"{name} is {name}")
  else none

/-- Tells what names are to the shell. -/
def describe (short : Bool) (args : List Octets) : Run Unit := do
  Run.setStatus 0
  args.forM fun name => do
    match described (← get) name with
    | some (text, long) =>
      let _ ← Run.write 1 s!"{if short then text else long}\n"
    | none =>
      unless short do
        let _ ← Run.write 1 s!"{name}: not found\n"
      Run.setStatus 127

/-- Calls a command by its name. Assignments before a command of the shell that is special stay;
`functions` tells whether functions are looked at. -/
def call (fuel : Nat) (functions : Bool) (name : Octets) (args : List Octets) (tested : Bool) :
    Run Unit := do
  match fuel with
  | 0 => Run.setStatus 126
  | fuel + 1 =>
    let shell ← get
    let function? := if functions && !specialBuiltins.contains name then
        shell.functions.lookup name
      else none
    match function?, name, Builtin.find? name, ownUtility? name with
    | some function, _, _, _ => callFunction recur function args tested
    | none, "eval", _, _ =>
      runOwn name do
        Run.setStatus 0
        runText recur (" ".intercalate args) tested
    | none, ".", _, _ => runOwn name (runSourced recur args)
    | none, "exec", _, _ =>
      match args with
      | [] => Run.setStatus 0
      | program :: args =>
        runOwn name (runProgram recur 64 program args)
        throw .exit
    | none, "command", _, _ =>
      match args with
      | "-v" :: names => describe true (names.take 1)
      | "-V" :: names => describe false (names.take 1)
      | "-p" :: program :: args | "--" :: program :: args | program :: args =>
        call fuel false program args tested
      | [] => Run.setStatus 0
    | none, "type", _, _ => describe false args
    | none, "wait", _, _ =>
      let status := (args.getLast?.map fun arg =>
        (shell.jobs.find? fun job => toString job.1 == arg).elim 127 (·.2)).getD 0
      Run.setStatus status
    | none, name, some run, _ => runOwn name (run args)
    | none, name, none, some run =>
      runUtility (ownName shell name) run args
    | none, name, none, none => runProgram recur 64 name args

/-! ### Commands -/

/-- Shows a command before it is run. -/
def trace (descriptor? : Option Nat) (assignments : List (String × Octets)) (words : List Octets) :
    Run Unit := do
  let shell ← get
  if shell.hasOption 'x' then
    let texts := assignments.map (fun (name, value) => s!"{name}={value}") ++ words
    let line := (shell.bound? "PS4").getD "+ " ++ " ".intercalate texts ++ "\n"
    match descriptor? with
    | none => return ()
    | some number =>
      let outer := shell.descriptors
      modify fun shell => shell.setDescriptor 2 number
      let _ ← Run.write 2 line
      modify fun shell => { shell with descriptors := outer }

/-- Gives variables their values from left to right. -/
def assignAll (exported : Bool) : List (String × Word) → Run (List (String × Octets))
  | [] => return []
  | (name, word) :: rest => do
    let value ← expandText (outputOf recur) word
    Run.setVariable name value
    if exported then
      modify fun shell =>
        shell.putVariable name
          ((shell.bindings.lookup name).map fun entry => { entry with exported := true })
    return (name, value) :: (← assignAll exported rest)

/-- Stops the script at a command that has failed, if that is asked for. -/
def checkFailure (tested : Bool) : Run Unit := do
  let shell ← get
  if !tested && shell.hasOption 'e' && shell.status != 0 then throw .exit

/-- Runs the actions of signals that have come. -/
def runPending : Run Unit := do
  let shell ← get
  if !shell.pending.isEmpty then
    set { shell with pending := [] }
    shell.pending.forM fun number => do
      runText recur ((shell.traps.lookup number).getD "") false
    Run.setStatus shell.status

def runSimple (line : Nat) (assignments : List (String × Word)) (words : List Word)
    (redirects : List Redirect) (tested : Bool) : Run Unit := do
  modify fun shell => { shell with line, outputStatus := 0 }
  let args ← expandWords (outputOf recur) words
  let outer ← get
  let special := args.head?.any specialBuiltins.contains
  if args = ["exec"] then
    let made ← redirect recur redirects
    if !made then throw .fault
  else
    withRedirects recur redirects fun made => do
      if !made then
        if special then throw .fault
      else
        let kept := args.isEmpty || special
        let bindings := (← get).bindings
        let assigned ← assignAll recur (!kept) assignments
        trace (outer.descriptors.lookup 2) assigned args
        match args with
        | [] => modify fun shell => { shell with status := shell.outputStatus }
        | name :: args =>
          if kept then call recur 64 true name args tested
          else
            let names := assigned.map (·.1)
            Run.after (call recur 64 true name args tested)
              (modify fun shell =>
                names.foldl (fun shell name =>
                  shell.putVariable name (bindings.lookup name)) shell)
  checkFailure tested

/-- Runs the commands of a pipeline one after the other, each in a shell of its own. -/
def runPipeline : List Command → Run Unit
  | [] => return ()
  | [command] => inSubshell recur (recur command false)
  | command :: rest => do
    let output ← collect recur (recur command false)
    let outer := (← get).descriptors
    let (number, shell) := (← get).addChannel (.source output)
    set (shell.setDescriptor 0 number)
    Run.after (runPipeline rest) (modify fun shell => { shell with descriptors := outer })

/-- What a body of a loop leads to: whether the loop goes on. -/
def runBody (run : Run Unit) : Run Bool := do
  modify fun shell => { shell with loops := shell.loops + 1 }
  let result ← Run.attempt run
  modify fun shell => { shell with loops := shell.loops - 1 }
  match result with
  | .ok _ => return true
  | .error (.breaking count) => if count > 1 then throw (.breaking (count - 1)) else return false
  | .error (.continuing count) => if count > 1 then throw (.continuing (count - 1)) else return true
  | .error stop => throw stop

/-- Runs a loop; its status is the one of the last run of the body. -/
def runLoop (success : Bool) (test body : Command) (tested : Bool) :
    (fuel : Nat) → (status : Nat) → Run Unit
  | 0, _ => throw .exit
  | fuel + 1, status => do
    let goesOn ← runBody (recur test true)
    if !goesOn || ((← get).status == 0) != success then Run.setStatus status
    else
      let goesOn ← runBody (recur body tested)
      if goesOn then runLoop success test body tested fuel (← get).status

/-- Runs a body for every value of a variable. -/
def runEach (name : String) (body : Command) (tested : Bool) : List Octets → Run Unit
  | [] => return ()
  | value :: rest => do
    Run.setVariable name value
    if ← runBody (recur body tested) then runEach name body tested rest

/-- Runs the first arm that has a pattern for the subject. -/
def runArms (subject : List Char) (tested : Bool) : List Arm → Run Unit
  | [] => return ()
  | .mk patterns body :: rest => do
    let rec matchesAny : List Word → Run Bool
      | [] => return false
      | pattern :: patterns => do
        let glyphs ← expandPattern (outputOf recur) pattern
        if Text.Wildcard.isMatch (Text.Wildcard.ofGlyphs glyphs) subject then return true
        else matchesAny patterns
    if ← matchesAny patterns then recur body tested else runArms subject tested rest

/-- Runs a command, given how to run the ones in it. -/
def runCommand (fuel : Nat) (command : Command) (tested : Bool) : Run Unit := do
  if (← get).hasOption 'n' then return ()
  match command with
  | .nothing => return ()
  | .simple line assignments words redirects =>
    runSimple recur line assignments words redirects tested
    runPending recur
  | .redirected line body redirects =>
    modify fun shell => { shell with line }
    withRedirects recur redirects fun made => if made then recur body tested else return ()
  | .subshell line body redirects =>
    modify fun shell => { shell with line }
    withRedirects recur redirects fun made =>
      if made then inSubshell recur (recur body tested) else return ()
    checkFailure tested
  | .pipeline commands =>
    runPipeline recur commands
    checkFailure tested
  | .background body =>
    let outer := (← get).descriptors
    let (number, shell) := (← get).addChannel .null
    set (shell.setDescriptor 0 number)
    Run.after (inSubshell recur (recur body false))
      (modify fun shell => { shell with descriptors := outer })
    modify fun shell =>
      { shell with
        jobs := (shellNumber + 1 + shell.jobs.length, shell.status) :: shell.jobs, status := 0 }
  | .negation body =>
    recur body true
    Run.setStatus (if (← get).status = 0 then 1 else 0)
  | .sequence first second =>
    recur first tested
    recur second tested
  | .conjunction first second =>
    recur first true
    if (← get).status = 0 then recur second tested
  | .disjunction first second =>
    recur first true
    if (← get).status != 0 then recur second tested
  | .conditional test body otherwise =>
    recur test true
    if (← get).status = 0 then recur body tested
    else
      if otherwise matches .nothing then Run.setStatus 0
      recur otherwise tested
  | .loop success test body => runLoop recur success test body tested fuel 0
  | .each line name words body =>
    modify fun shell => { shell with line }
    let values ← expandWords (outputOf recur) words
    Run.setStatus 0
    runEach recur name body tested values
  | .choice line subject arms =>
    modify fun shell => { shell with line }
    let subject ← expandText (outputOf recur) subject
    Run.setStatus 0
    runArms recur subject.toList tested arms
  | .definition line name body =>
    modify fun shell =>
      { shell with
        functions := (name, ⟨line, body⟩) :: shell.functions.filter (·.1 != name), status := 0 }

end

/-- Runs a command with at most so many commands in each other. -/
def run : (fuel : Nat) → Command → (tested : Bool) → Run Unit
  | 0, _, _ => throw .exit
  | fuel + 1, command, tested => runCommand (run fuel) fuel command tested

/-- How deep commands may be in each other, and how often a loop may run. -/
def maxDepth : Nat := 20000

/-! ### Whole programs -/

/-- How a program ends. -/
inductive Ending where
  | exited (status : Nat)
  | killed (signal : Nat)
  deriving DecidableEq, Repr

/-- What a program leaves behind. -/
structure Result where
  store : Store
  errors : Octets
  ending : Ending

/-- The state that a program is started in: no input, and its output and errors collected. -/
def Shell.initial (store : Store) : Shell where
  store := store
  channels := #[.null, .collector "", .collector ""]
  descriptors := [(0, 0), (1, 1), (2, 2)]
  name := "sh"
  parameters := []
  bindings :=
    [("HOME", ⟨some "/root", true, false⟩),
      ("PATH", ⟨some "/usr/local/sbin:/usr/local/bin:/usr/sbin:/usr/bin:/sbin:/bin", true, false⟩),
      ("PWD", ⟨some ("/" ++ "/".intercalate (store.home.map Octets.encode)), true, false⟩)] ++
      Shell.ownVariables
  functions := []
  documents := #[]
  options := []
  status := 0
  outputStatus := 0
  line := 0
  running? := none
  loops := 0
  locals := []
  traps := []
  pending := []
  jobs := []
  aliases := []
  scan := ⟨1, none⟩
  mask := 0o022
  signal? := none

def Shell.result (shell : Shell) (home : Path) : Result where
  store := { shell.store with home }
  errors := shell.collected 2
  ending := match shell.signal? with
    | some signal => .killed signal
    | none => .exited shell.status

/-- Runs a program of a name with its arguments. -/
def launch (store : Store) (name : Octets) (args : List Octets) : Result :=
  let program : Run Unit :=
    match programName name with
    | "sh" | "dash" => becomeShell (run maxDepth) name args
    | _ => runProgram (run maxDepth) 64 name args
  let (_, shell) := (ExceptT.run program).run (Shell.initial store)
  shell.result store.home

/-- Whether there is a program of this name. -/
def isProgram (name : Octets) : Bool :=
  let program := programName name
  runningPrograms.contains program || (Utility.find? program).isSome

end TreeSchema.Script
