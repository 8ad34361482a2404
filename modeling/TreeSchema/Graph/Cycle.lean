/-!
Cycles of a finite graph, found by a depth-first walk.

A vertex is marked as visiting while the walk is below it, and as left when the walk will not come
back. The names of the vertices on the way make a path, in which a vertex that is met again closes a
cycle.
-/

namespace TreeSchema.Graph

variable {α β : Type} [DecidableEq α] [DecidableEq β]

/-- The part of a path, kept last name first, that leads from `name` to its end and back to `name`.
A path without the name is taken from its start. -/
def closeCycle (path : List β) (name : β) : List β :=
  path.reverse.drop ((path.reverse.idxOf? name).getD 0) ++ [name]

/-- The vertices that the walk is not below. -/
def unseen (vertices visiting : List α) : List α :=
  vertices.filter (· ∉ visiting)

omit [DecidableEq α] in
theorem length_filter_lt_of_imp {p q : α → Bool} {a : α} (imp : ∀ b, p b = true → q b = true)
    (hq : q a = true) (hp : p a = false) :
    ∀ {vertices : List α}, a ∈ vertices →
      (vertices.filter p).length < (vertices.filter q).length
  | b :: rest, member => by
    have tail : (rest.filter p).length ≤ (rest.filter q).length := by
      simpa [List.countP_eq_length_filter] using
        List.countP_mono_left (l := rest) (fun b _ => imp b)
    rcases List.mem_cons.mp member with rfl | inRest
    · simp only [List.filter_cons, hq, hp]
      simpa using Nat.lt_succ_of_le tail
    · have less := length_filter_lt_of_imp imp hq hp inRest
      simp only [List.filter_cons]
      by_cases pb : p b = true
      · simpa [pb, imp b pb] using less
      · by_cases qb : q b = true
        · simpa [pb, qb] using Nat.lt_succ_of_lt less
        · simpa [pb, qb] using less

theorem length_unseen_cons_lt {vertices visiting : List α} {a : α} (member : a ∈ vertices)
    (fresh : a ∉ visiting) :
    (unseen vertices (a :: visiting)).length < (unseen vertices visiting).length := by
  refine length_filter_lt_of_imp (a := a) ?_ ?_ ?_ member
  · intro b
    simp +contextual
  · simpa using fresh
  · simp

mutual

/-- Walks on from `a`. The answer is the list of vertices left for good, or a cycle of names and the
name at which it closes. -/
def visit (vertices : List α) (edges : α → List α) (name : α → β) (visiting : List α)
    (path : List β) (left : List α) (a : α) : Except (β × List β) (List α) :=
  if a ∈ left then .ok left
  else if _ : a ∈ visiting then .error (name a, closeCycle path (name a))
  else if _ : a ∈ vertices then
    match visitAll vertices edges name (a :: visiting) (name a :: path) left (edges a) with
    | .ok left => .ok (a :: left)
    | .error cycle => .error cycle
  else .ok left
termination_by ((unseen vertices visiting).length, 0)
decreasing_by
  exact Prod.Lex.left _ _ (length_unseen_cons_lt ‹_› ‹_›)

/-- Walks on from each vertex of a list in turn. -/
def visitAll (vertices : List α) (edges : α → List α) (name : α → β) (visiting : List α)
    (path : List β) (left : List α) : List α → Except (β × List β) (List α)
  | [] => .ok left
  | a :: rest =>
    match visit vertices edges name visiting path left a with
    | .ok left => visitAll vertices edges name visiting path left rest
    | .error cycle => .error cycle
termination_by targets => ((unseen vertices visiting).length, targets.length)
decreasing_by
  · exact Prod.Lex.right _ (by simp)
  · exact Prod.Lex.right _ (by simp)

end

/-- The names of a cycle of the graph, with the one at which it closes. -/
def cycle? (vertices : List α) (edges : α → List α) (name : α → β) : Option (β × List β) :=
  match visitAll vertices edges name [] [] [] vertices with
  | .ok _ => none
  | .error cycle => some cycle

end TreeSchema.Graph
