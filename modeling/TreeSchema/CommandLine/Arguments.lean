/-!
The arguments of the command line: two switches among two positional arguments. They are read from
left to right, and the first one that is wrong decides. After two dashes every argument is
positional.
-/

namespace TreeSchema.CommandLine

/-- What is to be done. -/
structure Job where
  schema : String
  outdir : String
  noFormat : Bool
  formatter? : Option String
  deriving DecidableEq, Repr

inductive Request where
  | help
  | job (job : Job)
  deriving DecidableEq, Repr

inductive ArgumentFault where
  | unrecognized (arg : String)
  | noFormatter
  | secondFormatter (value : String)
  | missing (names : List String)
  /-- An option after a request for help. -/
  | afterHelp
  deriving DecidableEq, Repr

namespace ArgumentFault

def lines : ArgumentFault → List String
  | unrecognized arg => [s!"Unrecognized argument: {arg}", ""]
  | noFormatter => ["No value provided for option '--formatter'.", ""]
  | secondFormatter value =>
    [s!"Error parsing option '--formatter' with value '{value}': duplicate values provided", ""]
  | missing names =>
    "Required positional arguments not provided:" :: names.map ("    " ++ ·) ++ [""]
  | afterHelp => ["Trailing arguments are not allowed after `help`."]

end ArgumentFault

/-- What has been read so far. -/
structure Partial where
  help : Bool := false
  noFormat : Bool := false
  formatter? : Option String := none
  schema? : Option String := none
  outdir? : Option String := none
  deriving DecidableEq, Repr

namespace Partial

def addPositional (p : Partial) (arg : String) : Except ArgumentFault Partial :=
  match p.schema?, p.outdir? with
  | none, _ => .ok { p with schema? := some arg }
  | some _, none => .ok { p with outdir? := some arg }
  | some _, some _ => .error (.unrecognized arg)

def addPositionals : Partial → List String → Except ArgumentFault Partial
  | p, [] => .ok p
  | p, arg :: rest =>
    match p.addPositional arg with
    | .ok p => p.addPositionals rest
    | .error fault => .error fault

def addFormatter (p : Partial) (value : String) : Except ArgumentFault Partial :=
  match p.formatter? with
  | none => .ok { p with formatter? := some value }
  | some _ => .error (.secondFormatter value)

/-- Whether an argument is an option where it is not known to be positional. -/
def isOption (arg : String) : Bool :=
  arg.toList.head? == some '-'

/-- Reads an option and its value, if it has one; the answer holds what is left. -/
def addOption (p : Partial) (arg : String) (rest : List String) :
    Except ArgumentFault (Partial × List String) :=
  match arg, rest with
  | "--no-format", rest => .ok ({ p with noFormat := true }, rest)
  | "--formatter", [] => .error .noFormatter
  | "--formatter", value :: rest => (p.addFormatter value).map (·, rest)
  | arg, _ => .error (.unrecognized arg)

theorem length_le_of_addOption {p q : Partial} {arg : String} {rest left : List String}
    (h : p.addOption arg rest = .ok (q, left)) : left.length ≤ rest.length := by
  unfold addOption at h
  split at h
  · cases h; simp
  · cases h
  · rename_i value rest
    cases hvalue : p.addFormatter value with
    | error fault => simp [hvalue, Except.map] at h
    | ok p => simp only [hvalue, Except.map] at h; cases h; simp
  · cases h

/-- Reads arguments until one is wrong. Nothing that looks like an option may follow a request for
help. -/
def read (p : Partial) : List String → Except ArgumentFault Partial
  | [] => .ok p
  | arg :: rest =>
    if arg = "--help" ∨ arg = "help" then { p with help := true }.read rest
    else if arg = "--" then p.addPositionals rest
    else if isOption arg then
      if p.help then .error .afterHelp
      else
        match h : p.addOption arg rest with
        | .ok (p, left) =>
          have := length_le_of_addOption h
          p.read left
        | .error fault => .error fault
    else
      match p.addPositional arg with
      | .ok p => p.read rest
      | .error fault => .error fault
  termination_by args => args.length

/-- The request of arguments that have all been read. Help needs no other argument. -/
def request (p : Partial) : Except ArgumentFault Request :=
  if p.help then .ok .help
  else
    match p.schema?, p.outdir? with
    | some schema, some outdir => .ok (.job ⟨schema, outdir, p.noFormat, p.formatter?⟩)
    | some _, none => .error (.missing ["outdir"])
    | none, _ => .error (.missing ["schema", "outdir"])

end Partial

def Request.ofArguments (args : List String) : Except ArgumentFault Request :=
  match Partial.read {} args with
  | .ok p => p.request
  | .error fault => .error fault

/-! ### Texts -/

/-- What to do after wrong arguments. -/
def hint : String := "Run astgen --help for more information."

def usage : List String :=
  ["Usage: astgen [--no-format] [--formatter <formatter>] [--] <schema> <outdir>",
   "",
   "Generate AST node definitions from a schema.",
   "",
   "Positional Arguments:",
   "  schema            path to the schema file",
   "  outdir            output directory, or `-` to print to stdout",
   "",
   "Options:",
   "  --no-format       skip running the formatter on the output",
   "  --formatter       formatter to run on each output file (default: rustfmt)",
   "  --help, help      display usage information",
   ""]

end TreeSchema.CommandLine
