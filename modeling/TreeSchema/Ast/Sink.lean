/-!
Sinks that text is written to piece by piece.
-/

namespace TreeSchema.Ast

/-- Values that are rendered by writing pieces of text in order. What a refused piece does is up to
the monad. -/
class Rendered (α : Type) where
  render : {m : Type → Type} → [Monad m] → (String → m Unit) → α → m Unit

/-- The pieces that are written for a value, in order. -/
def pieces {α : Type} [Rendered α] (value : α) : List String :=
  let write (piece : String) : StateM (List String) Unit := modify (· ++ [piece])
  ((Rendered.render write value).run []).2

/-- All pieces of a value together. -/
def display {α : Type} [Rendered α] (value : α) : String :=
  String.join (pieces value)

/-- A sink that takes a limited number of bytes. -/
structure Sink where
  limit : Nat
  written : String
  deriving Repr

namespace Sink

/-- Takes the piece, or refuses it if there is no room for all of it. -/
def write (piece : String) : ExceptT Unit (StateM Sink) Unit := do
  let sink ← get
  if sink.written.utf8ByteSize + piece.utf8ByteSize ≤ sink.limit then
    set { sink with written := sink.written ++ piece }
  else throw ()

/-- Renders a value into an empty sink. The answer tells whether all of it was written, and what
was. -/
def fill {α : Type} [Rendered α] (limit : Nat) (value : α) : Bool × String :=
  match (Rendered.render write value).run.run ⟨limit, ""⟩ with
  | (.ok _, sink) => (true, sink.written)
  | (.error _, sink) => (false, sink.written)

end Sink

end TreeSchema.Ast
