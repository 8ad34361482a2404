import TreeSchema.Schema.Json
import TreeSchema.Source.OfSchema
import TreeSchema.Store.Fault

/-!
The ways in which the program as a whole fails. A failure has a message and, where something else
is behind it, a cause.
-/

namespace TreeSchema

inductive Failure where
  | schema (defect : Defect)
  | load (path : String) (fault : IoFault)
  | parse (fault : LoadFault)
  | parseFile (path : String) (fault : LoadFault)
  | emission
  | sink (path : String) (fault : IoFault)
  | formatterUnavailable (program : String) (fault : IoFault)
  | rejected (path diagnostic : String)
  deriving DecidableEq, Repr

instance exceptDecidableEq {ε α : Type} [DecidableEq ε] [DecidableEq α] :
    DecidableEq (Except ε α)
  | .ok a, .ok b => decidable_of_iff (a = b) (by simp)
  | .error a, .error b => decidable_of_iff (a = b) (by simp)
  | .ok _, .error _ | .error _, .ok _ => isFalse (by simp)

namespace Failure

def message : Failure → String
  | schema _ => "invalid schema"
  | load path _ => s!"failed to read schema {path}"
  | parse _ => "failed to parse schema"
  | parseFile path _ => s!"failed to parse schema {path}"
  | emission => "failed to emit source"
  | sink path _ => s!"failed to write {path}"
  | formatterUnavailable program _ => s!"failed to run formatter `{program}`"
  | rejected path diagnostic => s!"formatter rejected {path}:\n{diagnostic}"

def cause? : Failure → Option String
  | schema defect => some defect.message
  | load _ fault | sink _ fault | formatterUnavailable _ fault => some fault.message
  | parse fault | parseFile _ fault => some fault.message
  | emission => some "an error occurred when formatting an argument"
  | rejected .. => none

def ofGenerate : GenerateFault → Failure
  | .defect defect => .schema defect
  | .emission => .emission

end Failure

/-- Loads a schema from a JSON text that is not in a file. -/
def Schema.ofJson (text : String) : Except Failure Schema :=
  (Schema.load text).mapError .parse

/-- Generates the units of a schema. -/
def Schema.units (schema : Schema) : Except Failure (List SourceUnit) :=
  schema.generate.mapError .ofGenerate

end TreeSchema
