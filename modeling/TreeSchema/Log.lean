import TreeSchema.Source.OfSchema

/-!
What the program reports while it works. A report is one line: its level, where it comes from, a
message and the values it is about.
-/

namespace TreeSchema

inductive Level where
  | debug
  | info
  | warning
  deriving DecidableEq, Repr

def Level.text : Level → String
  | debug => "DEBUG"
  | info => "INFO"
  | warning => "WARN"

inductive Event where
  | emittingNode (node : String) (lifetime : Bool)
  | emittedUnit (category : String) (nodes bytes : Nat)
  | formatted (path : String)
  | wrote (path : String)
  | stagedNotRemoved (path cause : String)
  | backupNotRestored (path backup cause : String)
  | outputNotRemoved (path cause : String)
  | backupNotRemoved (path cause : String)
  deriving DecidableEq, Repr

namespace Event

def level : Event → Level
  | emittingNode .. | emittedUnit .. => .debug
  | formatted _ | wrote _ => .info
  | _ => .warning

def source : Event → String
  | emittingNode .. | emittedUnit .. => "astgen::emit"
  | _ => "astgen::output"

def text : Event → String
  | emittingNode node lifetime => s!"emitting node node={node} lifetime={lifetime}"
  | emittedUnit category nodes bytes =>
    s!"emitted unit category={category} nodes={nodes} bytes={bytes}"
  | formatted path => s!"formatted path={path}"
  | wrote path => s!"wrote path={path}"
  | stagedNotRemoved path cause => s!"failed to remove staged file path={path} err={cause}"
  | backupNotRestored path backup cause =>
    s!"failed to restore previous output path={path} backup={backup} err={cause}"
  | outputNotRemoved path cause => s!"failed to remove new output path={path} err={cause}"
  | backupNotRemoved path cause => s!"failed to remove previous output path={path} err={cause}"

def line (event : Event) : String :=
  s!"{event.level.text} {event.source}: {event.text}"

/-- The lines that the event is printed as. There is more than one where a path has a line break in
it. -/
def lines (event : Event) : List String :=
  event.line.splitOn "\n"

end Event

/-- What is reported about a file as it is generated: its records, then itself. -/
def Source.File.events (file : File) : List Event :=
  file.records.map (fun record => .emittingNode record.name record.lifetime) ++
  [.emittedUnit file.union file.records.length file.text.utf8ByteSize]

/-- What is reported while a schema is generated. -/
def Schema.generateEvents (schema : Schema) : List Event :=
  match schema.files with
  | .ok files => files.flatMap (·.events)
  | .error _ => []

end TreeSchema
