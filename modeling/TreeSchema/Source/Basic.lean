import TreeSchema.Schema.Basic

/-!
The shape of a generated unit, before it is text: imports, a union with its dispatcher, and per
record a definition, its constructors and a renderer.
-/

namespace TreeSchema.Source

/-- The type of a field as a unit writes it. -/
inductive TypeExpr where
  | plain (name : String)
  /-- A type with the arena's lifetime. -/
  | arena (name : String)
  | optional (inner : TypeExpr)
  | sequence (container : String) (element : TypeExpr)
  deriving DecidableEq, Repr

/-- One import line. -/
inductive Import where
  | path (path : String)
  | sibling (scope module : String) (names : List String)
  deriving DecidableEq, Repr

/-- A value that a renderer reads: a field of the record or the bound item. -/
inductive Place where
  | field (name : String)
  | item
  deriving DecidableEq, Repr

/-- An argument of a formatted write. -/
inductive Operand where
  | value (name : String)
  | lexeme (name : String)
  deriving DecidableEq, Repr

/-- A statement of a renderer. Every write stops the renderer if it fails. -/
inductive Statement where
  /-- Mentions the formatter and does nothing. -/
  | touch
  | writeText (text : String)
  | writeLexeme (place : Place)
  | display (place : Place)
  /-- A loop over a sequence; `binds` tells whether the element has a name. -/
  | forEach (binds : Bool) (field : String) (body : List Statement)
  /-- A block for a present value; `binds` tells whether the value has a name. -/
  | ifPresent (binds : Bool) (field : String) (body : List Statement)
  deriving Repr

/-- The body of a renderer. -/
inductive Body where
  | text (text : String)
  | format (format : String) (operands : List Operand)
  | block (statements : List Statement)
  deriving Repr

/-- A record with its variant in the union. -/
structure Record where
  name : String
  tag : String
  lifetime : Bool
  fields : List (String × TypeExpr)
  body : Body
  deriving Repr

/-- A generated file. -/
structure File where
  union : String
  module : String
  /-- The arena type's simple name. -/
  arena : String
  /-- The method that a token's source text is read with. -/
  lexeme : String
  imports : List Import
  records : List Record
  deriving Repr

end TreeSchema.Source
