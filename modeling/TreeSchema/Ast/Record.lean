import TreeSchema.Ast.Token
import TreeSchema.Decimal.Style

/-!
Trees of any schema. A record is seen as its name and its fields; a value of a union also has the
tag of its variant.
-/

namespace TreeSchema.Ast

mutual

inductive Value where
  | token (token : Token)
  | optionalToken (token : Option Token)
  | float (value : Float)
  | integer (value : Int)
  | boolean (value : Bool)
  | atom (atom : Atom)
  | node (record : Record)
  | absent
  | present (record : Record)
  | sequence (records : List Record)

/-- A record, with a tag if it stands in the place of a union. -/
inductive Record where
  | mk (tag : Option String) (name : String) (fields : List (String × Value))

end

/-- Floats are shown with the fewest digits and never with an exponent. A tie goes up. -/
def floatDisplay : Decimal.Style where
  positional _ := true
  keepsPoint := false
  plus := false
  tie := .upward

/-- The pieces in which a float is shown. -/
def floatPieces (value : Float) : List String :=
  ((Decimal.Parts.ofBits value.toBits.toNat).pieces floatDisplay.tie).map String.ofList

/-- Floats are described with a point, and with an exponent where they are large or small. A tie
goes up. -/
def floatDebug : Decimal.Style where
  positional exponent := -4 ≤ exponent && exponent < 16
  keepsPoint := true
  plus := false
  tie := .upward

mutual

def Value.shape : Value → Shape
  | .token token => token.shape
  | .optionalToken token => .ofOption (token.map Token.shape)
  | .float value => .text (floatDebug.write value)
  | .integer value => .text (toString value)
  | .boolean value => .text (toString value)
  | .atom atom => .text atom.debug
  | .node record => record.shape
  | .absent => .text "None"
  | .present record => .wrapped "Some" record.shape
  | .sequence records => .list (recordShapes records)

def Record.shape : Record → Shape
  | .mk none name fields => .record name (fieldShapes fields)
  | .mk (some tag) name fields => .wrapped tag (.record name (fieldShapes fields))

def fieldShapes : List (String × Value) → List (String × Shape)
  | [] => []
  | (name, value) :: rest => (name, value.shape) :: fieldShapes rest

def recordShapes : List Record → List Shape
  | [] => []
  | record :: rest => record.shape :: recordShapes rest

end

end TreeSchema.Ast
