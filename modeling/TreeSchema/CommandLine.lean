import TreeSchema.CommandLine.Arguments
import TreeSchema.Formatter
import TreeSchema.Text.Lossy

/-!
The command line as a whole: from arguments, a store and a standard output to an exit code, what has
been printed, lines of errors and a store. Running a formatter is left to a parameter.
-/

namespace TreeSchema.CommandLine

/-- Standard output: it takes everything, or it takes some bytes and refuses those after them. -/
inductive Console where
  | endless
  | limited (room : Nat) (fault : IoFault)
  deriving DecidableEq, Repr

namespace Console

/-- What is taken of the bytes, and why the others are refused if there are any. -/
def take : Console → ByteArray → ByteArray × Option IoFault
  | endless, bytes => (bytes, none)
  | limited room fault, bytes =>
    if bytes.size ≤ room then (bytes, none) else (bytes.extract 0 room, some fault)

/-- Prints texts after what has been printed before. The first that is not taken as a whole is the
last. -/
def print (console : Console) (printed : ByteArray) : List String → ByteArray × Option IoFault
  | [] => (printed, none)
  | text :: rest =>
    match console.take (printed ++ text.toUTF8) with
    | (printed, none) => console.print printed rest
    | (printed, some fault) => (printed, some fault)

end Console

/-- What a run leaves behind. -/
structure Report where
  exit : Nat
  printed : ByteArray
  errors : List String
  store : Store

/-- What has been printed, as a text. -/
def Report.output (report : Report) : String :=
  Text.decodeLossy report.printed

/-- A text of which every line is ended. -/
def unlines (lines : List String) : String :=
  String.join (lines.map (· ++ "\n"))

def Report.ofFault (fault : ArgumentFault) (store : Store) : Report :=
  ⟨1, .empty, fault.lines ++ [hint], store⟩

/-- The program breaks off if the usage cannot be printed. -/
def Report.ofHelp (console : Console) (store : Store) : Report :=
  match console.print .empty [unlines usage] with
  | (printed, none) => ⟨0, printed, [], store⟩
  | (printed, some fault) => ⟨101, printed, [s!"failed printing to stdout: {fault.message}"], store⟩

/-- Events that are shown. -/
def shown (log : List Event) : List String :=
  (log.filter fun event => event.level != .debug).flatMap (·.lines)

def Report.ofFailure (failure : Failure) (log : List Event) (store : Store) : Report :=
  ⟨1, .empty, shown log ++ s!"error: {failure.message}" ::
    (failure.cause?.map fun cause => s!"  caused by: {cause}").toList, store⟩

/-- The formatter that a job asks for. -/
def Job.formatterOf (job : Job) : Option Formatter :=
  if job.noFormat then none
  else some ((job.formatter?.map fun program => ⟨program, []⟩).getD .standard)

/-- Writes the units of a job: to standard output, or into its directory. -/
def Job.deliver (job : Job) (format : Formatter → FormatStep) (units : List SourceUnit)
    (store : Store) (console : Console) : Report :=
  if job.outdir = "-" then
    match console.print .empty (units.map (·.source)) with
    | (printed, none) => ⟨0, printed, [], store⟩
    | (printed, some fault) => { Report.ofFailure (.sink "<stdout>" fault) [] store with printed }
  else
    match (Work.start store).writeUnits job.outdir units (job.formatterOf.map format) with
    | (work, .ok _) => ⟨0, .empty, shown work.log, work.store⟩
    | (work, .error failure) => .ofFailure failure work.log work.store

def Job.run (job : Job) (format : Formatter → FormatStep) (store : Store) (console : Console) :
    Report :=
  match (store.loadSchema job.schema).bind (·.units) with
  | .ok units => job.deliver format units store console
  | .error failure => .ofFailure failure [] store

/-- A run that prints to the given standard output. -/
def runOn (format : Formatter → FormatStep) (args : List String) (store : Store)
    (console : Console) : Report :=
  match Request.ofArguments args with
  | .error fault => .ofFault fault store
  | .ok .help => .ofHelp console store
  | .ok (.job job) => job.run format store console

/-- A run with nothing in the way of what it prints. -/
def run (format : Formatter → FormatStep) (args : List String) (store : Store) : Report :=
  runOn format args store .endless

end TreeSchema.CommandLine
