import TreeSchema.Schema.Basic

/-!
What the type names of a schema refer to.
-/

namespace TreeSchema

/-- A position in a schema: a category, or a node of a category. -/
inductive Target where
  | union (category : Nat)
  | record (category node : Nat)
  deriving DecidableEq, Repr

def Target.category : Target → Nat
  | .union category => category
  | .record category _ => category

/-- The names met so far with what they stand for. -/
structure Index where
  entries : List (String × Target)
  deriving DecidableEq, Repr

namespace Index

def empty : Index := ⟨[]⟩

def resolve (index : Index) (name : String) : Option Target :=
  index.entries.lookup name

/-- Adds a name, unless it has a meaning already. -/
def insert? (index : Index) (name : String) (target : Target) : Option Index :=
  match index.resolve name with
  | some _ => none
  | none => some ⟨(name, target) :: index.entries⟩

end Index

/-- The node at a position. -/
def Schema.node? (schema : Schema) (category node : Nat) : Option Node := do
  let category ← schema.categories[category]?
  category.nodes[node]?

end TreeSchema
