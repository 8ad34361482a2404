import TreeSchema.Text.Words

/-!
Schemas of syntax trees. A schema is a list of categories; a category is a union of records, each
with typed fields and a program that renders it.
-/

namespace TreeSchema

/-- Paths of the types that the generated units depend on. -/
structure Collaborators where
  /-- The token type, stored by value. -/
  token : String := "crate::token::Token"
  /-- The method of tokens that returns their source text. -/
  lexeme : String := "lexeme"
  /-- The type of interned strings, stored by value. -/
  atom : String := "crate::intern::StringAtom"
  /-- The type that allocates nodes. -/
  arena : String := "bumpalo::Bump"
  /-- The type of sequences allocated in the arena. -/
  sequence : String := "bumpalo::collections::Vec"
  /-- The path under which the modules of the other units are found. -/
  siblingPrefix : String := "super"
  deriving DecidableEq, Repr

inductive Primitive where
  | f64
  | i64
  | bool
  | atom
  deriving DecidableEq, Repr

/-- The type of a field. Targets are names of categories or records. -/
inductive FieldType where
  | token
  | optionalToken
  | primitive (primitive : Primitive)
  | node (target : String)
  | optionalNode (target : String)
  | sequence (target : String)
  deriving DecidableEq, Repr

/-- The category or record the field refers to. -/
def FieldType.target? : FieldType → Option String
  | .node target | .optionalNode target | .sequence target => some target
  | .token | .optionalToken | .primitive _ => none

/-- Whether values of the type live in the arena. Only references to nodes do, whatever the
nodes hold. -/
def FieldType.inArena (type : FieldType) : Bool :=
  type.target?.isSome

/-- The record or category embedded by value. -/
def FieldType.embeds? : FieldType → Option String
  | .node target | .optionalNode target => some target
  | _ => none

/-- A step of a rendering program. -/
inductive RenderOp where
  | literal (text : String)
  | field (name : String)
  /-- The element or value bound by the innermost enclosing step. -/
  | item
  | forEach (field : String) (body : List RenderOp) (separator : String)
  | ifPresent (field : String) (body : List RenderOp)
  deriving Repr

namespace RenderOp

mutual

def decEq : (a b : RenderOp) → Decidable (a = b)
  | .literal s, .literal t => decidable_of_iff (s = t) (by simp)
  | .field s, .field t => decidable_of_iff (s = t) (by simp)
  | .item, .item => isTrue rfl
  | .forEach f p s, .forEach g q t =>
    have := decEqList p q
    decidable_of_iff (f = g ∧ p = q ∧ s = t) (by simp)
  | .ifPresent f p, .ifPresent g q =>
    have := decEqList p q
    decidable_of_iff (f = g ∧ p = q) (by simp)
  | .literal _, .field _ | .literal _, .item | .literal _, .forEach .. | .literal _, .ifPresent ..
  | .field _, .literal _ | .field _, .item | .field _, .forEach .. | .field _, .ifPresent ..
  | .item, .literal _ | .item, .field _ | .item, .forEach .. | .item, .ifPresent ..
  | .forEach .., .literal _ | .forEach .., .field _ | .forEach .., .item
  | .forEach .., .ifPresent .. | .ifPresent .., .literal _ | .ifPresent .., .field _
  | .ifPresent .., .item | .ifPresent .., .forEach .. => isFalse (by simp)

def decEqList : (p q : List RenderOp) → Decidable (p = q)
  | [], [] => isTrue rfl
  | a :: p, b :: q =>
    have := decEq a b
    have := decEqList p q
    decidable_of_iff (a = b ∧ p = q) (by simp)
  | [], _ :: _ | _ :: _, [] => isFalse (by simp)

end

instance : DecidableEq RenderOp := decEq

end RenderOp

/-- How a record is shown. -/
inductive Render where
  /-- The arguments are field names in the order of the placeholders. -/
  | template (format : String) (args : List String)
  | custom (ops : List RenderOp)
  deriving DecidableEq, Repr

structure Field where
  name : String
  type : FieldType
  deriving DecidableEq, Repr

/-- A kind of node: the record's name, the tag of its variant in the union, its fields and how it
is shown. -/
structure Node where
  name : String
  tag : String
  fields : List Field
  render : Render
  deriving DecidableEq, Repr

namespace Node

/-- A node without fields that shows nothing. -/
def new (name tag : String) : Node :=
  ⟨name, tag, [], .template "" []⟩

def addField (node : Node) (name : String) (type : FieldType) : Node :=
  { node with fields := node.fields ++ [⟨name, type⟩] }

def withRender (node : Node) (render : Render) : Node :=
  { node with render }

/-- The first field of this name. -/
def field? (node : Node) (name : String) : Option Field :=
  node.fields.find? (·.name = name)

/-- Whether the record carries the lifetime of the arena. -/
def needsLifetime (node : Node) : Bool :=
  node.fields.any (·.type.inArena)

end Node

/-- A union of nodes, emitted as one module. -/
structure Category where
  name : String
  module : Option String
  nodes : List Node
  deriving DecidableEq, Repr

namespace Category

def new (name : String) : Category :=
  ⟨name, none, []⟩

def withModule (category : Category) (module : String) : Category :=
  { category with module := some module }

def addNode (category : Category) (node : Node) : Category :=
  { category with nodes := category.nodes ++ [node] }

/-- The module of the unit, by default the category's name in snake case. -/
def moduleName (category : Category) : String :=
  category.module.getD (Text.snakeCase category.name)

/-- The field types of all nodes. -/
def fieldTypes (category : Category) : List FieldType :=
  category.nodes.flatMap fun node => node.fields.map (·.type)

end Category

structure Schema where
  collaborators : Collaborators
  categories : List Category
  deriving DecidableEq, Repr

namespace Schema

def empty : Schema :=
  ⟨{}, []⟩

def withCollaborators (schema : Schema) (collaborators : Collaborators) : Schema :=
  { schema with collaborators }

def addCategory (schema : Schema) (category : Category) : Schema :=
  { schema with categories := schema.categories ++ [category] }

end Schema

end TreeSchema
