/-!
Debug text. A value is described by its shape, which is written on one line or with one part per
line.
-/

namespace TreeSchema.Ast

inductive Shape where
  | text (text : String)
  /-- A name with named parts, just the name if there are none. -/
  | record (name : String) (parts : List (String × Shape))
  /-- A name with one part. -/
  | wrapped (name : String) (part : Shape)
  | list (items : List Shape)

namespace Shape

def ofOption (shape? : Option Shape) : Shape :=
  match shape? with
  | none => .text "None"
  | some shape => .wrapped "Some" shape

mutual

/-- The shape on one line. -/
def line : Shape → String
  | text t => t
  | record name [] => name
  | record name (part :: rest) =>
    name ++ " \x7b " ++ partLine part ++ partsLine rest ++ " \x7d"
  | wrapped name part => name ++ "(" ++ part.line ++ ")"
  | list [] => "[]"
  | list (item :: rest) => "[" ++ item.line ++ itemsLine rest ++ "]"

def partLine : String × Shape → String
  | (name, part) => name ++ ": " ++ part.line

def partsLine : List (String × Shape) → String
  | [] => ""
  | part :: rest => ", " ++ partLine part ++ partsLine rest

def itemsLine : List Shape → String
  | [] => ""
  | item :: rest => ", " ++ item.line ++ itemsLine rest

end

/-- A line break and the indentation of the next line. -/
def newline (depth : Nat) : String :=
  "\n" ++ String.join (List.replicate depth "    ")

mutual

/-- The shape with one part per line, the first line being indented by `depth` levels. -/
def pretty (depth : Nat) : Shape → String
  | text t => t
  | record name [] => name
  | record name parts =>
    name ++ " \x7b" ++ partsPretty (depth + 1) parts ++ newline depth ++ "\x7d"
  | wrapped name part =>
    name ++ "(" ++ newline (depth + 1) ++ part.pretty (depth + 1) ++ "," ++ newline depth ++ ")"
  | list [] => "[]"
  | list items => "[" ++ itemsPretty (depth + 1) items ++ newline depth ++ "]"

def partsPretty (depth : Nat) : List (String × Shape) → String
  | [] => ""
  | (name, part) :: rest =>
    newline depth ++ name ++ ": " ++ part.pretty depth ++ "," ++ partsPretty depth rest

def itemsPretty (depth : Nat) : List Shape → String
  | [] => ""
  | item :: rest => newline depth ++ item.pretty depth ++ "," ++ itemsPretty depth rest

end

end Shape

end TreeSchema.Ast
