import TreeSchema.Formatter.Script.Running
import TreeSchema.Output
import TreeSchema.Text.CharClass

/-!
Formatters. A formatter is a command that is given the path of a file and changes the file in place.
-/

namespace TreeSchema

open Text (Octets)

structure Formatter where
  program : String
  args : List String := []
  deriving DecidableEq, Repr

namespace Formatter

/-- The formatter of generated units. -/
def standard : Formatter := ⟨"rustfmt", ["--edition", "2024"]⟩

/-- Why a program cannot be run that is not found by its name. -/
def launchFault (store : Store) (program : String) : IoFault :=
  if program.toList.contains '/' then
    match store.resolve program with
    | .error fault => fault
    | .ok path => if (store.get? path).isSome then .denied else .notFound
  else if program = "." ∨ program = ".." then .denied
  else if program.utf8ByteSize > maxName then .nameTooLong
  else .notFound

/-- Runs a command on a file. -/
def launch (formatter : Formatter) (path : String) (store : Store) :
    Except IoFault Script.Result :=
  let args := formatter.args ++ [path]
  if (formatter.program :: args).any (·.toList.contains '\x00') then .error .nulInCommand
  else
    let program := Octets.encode formatter.program
    if Script.isProgram program then .ok (Script.launch store program (args.map Octets.encode))
    else .error (launchFault store formatter.program)

/-- The names of the signals from the first on. -/
def signalNames : List String :=
  ["SIGHUP", "SIGINT", "SIGQUIT", "SIGILL", "SIGTRAP", "SIGABRT", "SIGBUS", "SIGFPE", "SIGKILL",
    "SIGUSR1", "SIGSEGV", "SIGUSR2", "SIGPIPE", "SIGALRM", "SIGTERM", "SIGSTKFLT", "SIGCHLD",
    "SIGCONT", "SIGSTOP", "SIGTSTP", "SIGTTIN", "SIGTTOU", "SIGURG", "SIGXCPU", "SIGXFSZ",
    "SIGVTALRM", "SIGPROF", "SIGWINCH", "SIGIO", "SIGPWR", "SIGSYS"]

/-- How a command has ended. -/
def endingText : Script.Ending → String
  | .exited status => s!"exit status: {status}"
  | .killed signal =>
    match signalNames[signal - 1]? with
    | some name => s!"signal: {signal} ({name})"
    | none => s!"signal: {signal}"

/-- What a command that failed says about it: what it wrote, if there is anything to read in it. -/
def diagnostic (formatter : Formatter) (result : Script.Result) : String :=
  let text := Octets.decode result.errors
  if text.toList.all Text.isBlank then
    s!"`{formatter.program}` exited with {endingText result.ending}"
  else text

/-- Formats a file. What the command did to the store stays, also when it fails. -/
def format (formatter : Formatter) : FormatStep := fun path store =>
  match formatter.launch path store with
  | .error fault => (store, some (.formatterUnavailable formatter.program fault))
  | .ok result =>
    (result.store,
      if result.ending = .exited 0 then none
      else some (.rejected path (formatter.diagnostic result)))

end Formatter

end TreeSchema
