import Mathlib.Data.List.Chain
import Mathlib.Data.List.Nodup
import Mathlib.Logic.Relation
import TreeSchema.Graph.Cycle

/-!
The walk finds a cycle if and only if there is one. The vertices it has left for good are in an
order in which every edge leads to an earlier one, so none of them is on a cycle; what it answers
with otherwise is a cycle that passes through no vertex twice.
-/

namespace TreeSchema.Graph

open Relation

variable {α : Type} {vertices path left targets cycle : List α} {edges : α → List α} {a b : α}

/-- An edge that the walk follows. -/
def Edge (vertices : List α) (edges : α → List α) (a b : α) : Prop :=
  a ∈ vertices ∧ b ∈ edges a

/-- The vertices have been left in this order, the last one first. -/
inductive Settled (vertices : List α) (edges : α → List α) : List α → Prop
  | nil : Settled vertices edges []
  | cons {left : List α} {a : α} (rest : Settled vertices edges left)
      (ends : ∀ b ∈ edges a, b ∈ vertices → b ∈ left) : Settled vertices edges (a :: left)

/-- A walk along edges that ends where it starts and meets no other vertex twice. -/
structure IsCycle (vertices : List α) (edges : α → List α) (cycle : List α) : Prop where
  chain : cycle.IsChain (Edge vertices edges)
  closed : cycle.head? = cycle.getLast?
  distinct : cycle.tail.Nodup
  long : 2 ≤ cycle.length

theorem Settled.acyclic (settled : Settled vertices edges left) (member : a ∈ left) :
    ¬TransGen (Edge vertices edges) a a := by
  induction settled generalizing a with
  | nil => simp at member
  | @cons left c rest ends ih =>
    rcases List.mem_cons.mp member with rfl | later
    · intro around
      obtain ⟨b, first, more⟩ := TransGen.head'_iff.mp around
      have back : TransGen (Edge vertices edges) b b := TransGen.tail' more first
      obtain ⟨next, second, -⟩ := TransGen.head'_iff.mp back
      exact ih (ends b first.2 second.1) back
    · exact ih later

theorem IsCycle.exists_eq (h : IsCycle vertices edges cycle) :
    ∃ a inner, cycle = a :: inner ++ [a] := by
  obtain ⟨-, closed, -, long⟩ := h
  match cycle, long with
  | a :: b :: rest, _ =>
    have last : (b :: rest).getLast (by simp) = a := by
      simpa [List.getLast?_cons_cons, List.getLast?_eq_some_getLast] using closed.symm
    refine ⟨a, (b :: rest).dropLast, ?_⟩
    rw [List.cons_append, ← last, List.dropLast_append_getLast]

theorem IsCycle.transGen (h : IsCycle vertices edges cycle) :
    ∃ a, TransGen (Edge vertices edges) a a := by
  obtain ⟨a, inner, rfl⟩ := h.exists_eq
  have chain : (a :: (inner ++ [a])).IsChain (Edge vertices edges) := h.chain
  cases reached : inner ++ [a] with
  | nil => simp at reached
  | cons b rest =>
    rw [reached] at chain
    obtain ⟨first, others⟩ := List.isChain_cons_cons.mp chain
    have last : (b :: rest).getLast (by simp) = a := by
      simp only [← reached, List.getLast_concat]
    have more := List.relationReflTransGen_of_exists_isChain_cons rest others last
    exact ⟨a, TransGen.head' first more⟩

theorem IsCycle.nodup_dropLast (h : IsCycle vertices edges cycle) : cycle.dropLast.Nodup := by
  obtain ⟨a, inner, rfl⟩ := h.exists_eq
  rw [List.dropLast_concat]
  exact (List.perm_append_singleton a inner).nodup_iff.mp h.distinct

theorem exists_of_isChain_concat {related : α → α → Prop} {list : List α}
    (chain : (list ++ [b]).IsChain related) (member : a ∈ list) : ∃ next, related a next := by
  induction list with
  | nil => cases member
  | cons first rest ih =>
    obtain ⟨before, chain⟩ := List.isChain_cons.mp chain
    rcases List.mem_cons.mp member with rfl | later
    · cases reached : rest ++ [b] with
      | nil => simp at reached
      | cons next others => exact ⟨next, before next (by simp [reached])⟩
    · exact ih chain later

theorem IsCycle.mem_vertices (h : IsCycle vertices edges cycle) (member : a ∈ cycle) :
    a ∈ vertices := by
  obtain ⟨first, inner, rfl⟩ := h.exists_eq
  have inFront : a ∈ first :: inner := by
    rcases List.mem_append.mp member with early | last
    · exact early
    · exact List.mem_singleton.mp last ▸ List.mem_cons_self
  obtain ⟨next, edge⟩ := exists_of_isChain_concat h.chain inFront
  exact edge.1

variable {β : Type} {name : α → β} {names : List β} {closing : β}

/-- The names are those of a cycle, and the last one is where it closes. -/
def NamesCycle (vertices : List α) (edges : α → List α) (name : α → β) (closing : β)
    (names : List β) : Prop :=
  ∃ cycle, IsCycle vertices edges cycle ∧ names = cycle.map name ∧ names.getLast? = some closing

/-- What is known of an answer of the walk. -/
def Answers (vertices : List α) (edges : α → List α) (name : α → β) (left targets : List α) :
    Except (β × List β) (List α) → Prop
  | .ok after => Settled vertices edges after ∧ left ⊆ after ∧
      ∀ a ∈ targets, a ∈ vertices → a ∈ after
  | .error (closing, names) => NamesCycle vertices edges name closing names

theorem Answers.append {rest after : List α} {answer : Except (β × List β) (List α)}
    (h : Answers vertices edges name left [a] (.ok after))
    (h' : Answers vertices edges name after rest answer) :
    Answers vertices edges name left (a :: rest) answer := by
  cases answer with
  | error cycle => exact h'
  | ok last =>
    refine ⟨h'.1, fun b member => h'.2.1 (h.2.1 member), fun b member inside => ?_⟩
    rcases List.mem_cons.mp member with rfl | later
    · exact h'.2.1 (h.2.2 b List.mem_cons_self inside)
    · exact h'.2.2 b later inside

/-! ### Closing a path -/

section Closing

variable [DecidableEq α] [DecidableEq β]

theorem closeCycle_of_eq {front back : List α} (parts : path.reverse = front ++ a :: back)
    (fresh : a ∉ front) : closeCycle path a = a :: back ++ [a] := by
  have place : (front ++ a :: back).idxOf? a = some front.length := by
    refine List.idxOf?_eq_some_iff.mpr ⟨by simp, by simp, fun j before same => fresh ?_⟩
    rw [List.getElem_append_left before] at same
    exact same ▸ List.getElem_mem before
  rw [closeCycle, parts, place, Option.getD_some, List.drop_left]

theorem closeCycle_of_notMem (absent : a ∉ path) : closeCycle path a = path.reverse ++ [a] := by
  have nowhere : path.reverse.idxOf? a = none := by simpa using absent
  rw [closeCycle, nowhere, Option.getD_none, List.drop_zero]

theorem getLast?_closeCycle (path : List α) (a : α) : (closeCycle path a).getLast? = some a := by
  rw [closeCycle, List.getLast?_concat]

/-- If no two vertices have the same name, a path of names is closed where the vertices are. -/
theorem closeCycle_map (member : a ∈ path) (apart : ∀ b ∈ path, name b = name a → b = a) :
    closeCycle (path.map name) (name a) = (closeCycle path a).map name := by
  obtain ⟨front, back, parts, fresh⟩ := List.eq_append_cons_of_mem (List.mem_reverse.mpr member)
  have partsToo : (path.map name).reverse = front.map name ++ name a :: back.map name := by
    rw [← List.map_reverse, parts, List.map_append, List.map_cons]
  have freshToo : name a ∉ front.map name := by
    intro among
    obtain ⟨b, inFront, same⟩ := List.mem_map.mp among
    have onPath : b ∈ path.reverse := parts ▸ List.mem_append_left _ inFront
    rw [apart b (List.mem_reverse.mp onPath) same] at inFront
    exact fresh inFront
  rw [closeCycle_of_eq parts fresh, closeCycle_of_eq partsToo freshToo, List.map_append,
    List.map_cons, List.map_singleton]

theorem isCycle_closeCycle (chain : (a :: path).IsChain fun b a => Edge vertices edges a b)
    (distinct : path.Nodup) (member : a ∈ path) :
    IsCycle vertices edges (closeCycle path a) := by
  obtain ⟨front, back, parts, fresh⟩ := List.eq_append_cons_of_mem (List.mem_reverse.mpr member)
  have along : (path.reverse ++ [a]).IsChain (Edge vertices edges) := by
    rw [← List.reverse_cons, List.isChain_reverse]
    exact chain
  have once : (front ++ a :: back).Nodup := parts ▸ List.nodup_reverse.mpr distinct
  rw [closeCycle_of_eq parts fresh]
  refine ⟨?_, ?_, ?_, by simp⟩
  · apply along.suffix
    rw [parts, List.append_assoc]
    exact List.suffix_append front _
  · rw [List.getLast?_concat, List.cons_append, List.head?_cons]
  · have fresh := (List.nodup_append'.mp once).2.1
    exact (List.perm_append_singleton a back).nodup_iff.mpr fresh

/-- Closing a path at a name that is not on it leads from one name to another, or nowhere. -/
theorem mem_of_closeCycle (closed : (closeCycle path a).head? = some a)
    (long : 2 ≤ (closeCycle path a).length) : a ∈ path := by
  by_contra absent
  rw [closeCycle_of_notMem absent] at closed long
  cases reversed : path.reverse with
  | nil => simp [reversed] at long
  | cons b others =>
    rw [reversed, List.cons_append, List.head?_cons] at closed
    have first : b ∈ path.reverse := reversed ▸ List.mem_cons_self
    rw [Option.some.inj closed] at first
    exact absent (List.mem_reverse.mp first)

end Closing

/-! ### The walk -/

section Walk

variable [DecidableEq α] [DecidableEq β]

mutual

theorem visit_answers (apart : ∀ a ∈ vertices, ∀ b ∈ vertices, name a = name b → a = b)
    (visiting left : List α) (a : α) (settled : Settled vertices edges left)
    (chain : (a :: visiting).IsChain fun b a => Edge vertices edges a b)
    (distinct : visiting.Nodup) (inside : ∀ b ∈ visiting, b ∈ vertices) :
    Answers vertices edges name left [a]
      (visit vertices edges name visiting (visiting.map name) left a) := by
  rw [visit]
  split
  next known => exact ⟨settled, fun _ => id, by simpa using fun _ => known⟩
  next unknown =>
    split
    next again =>
      have same : ∀ b ∈ visiting, name b = name a → b = a :=
        fun b member => apart b (inside b member) a (inside a again)
      refine ⟨closeCycle visiting a, isCycle_closeCycle chain distinct again, ?_, ?_⟩
      · exact closeCycle_map again same
      · exact getLast?_closeCycle _ _
    next fresh =>
      split
      next known =>
        have below := visitAll_answers apart (a :: visiting) left (edges a) settled
          (fun b edge => List.isChain_cons_cons.mpr ⟨⟨known, edge⟩, chain⟩)
          (List.nodup_cons.mpr ⟨fresh, distinct⟩) (List.forall_mem_cons.mpr ⟨known, inside⟩)
        rw [List.map_cons] at below
        split
        next after run =>
          rw [run] at below
          obtain ⟨settled, subset, ends⟩ := below
          exact ⟨.cons settled ends, fun b member => List.mem_cons_of_mem _ (subset member),
            by simp⟩
        next cycle run =>
          rw [run] at below
          exact below
      next outside => exact ⟨settled, fun _ => id, by simp [outside]⟩
termination_by ((unseen vertices visiting).length, 0)
decreasing_by
  exact Prod.Lex.left _ _ (length_unseen_cons_lt ‹_› ‹_›)

theorem visitAll_answers (apart : ∀ a ∈ vertices, ∀ b ∈ vertices, name a = name b → a = b)
    (visiting left targets : List α) (settled : Settled vertices edges left)
    (chain : ∀ a ∈ targets, (a :: visiting).IsChain fun b a => Edge vertices edges a b)
    (distinct : visiting.Nodup) (inside : ∀ b ∈ visiting, b ∈ vertices) :
    Answers vertices edges name left targets
      (visitAll vertices edges name visiting (visiting.map name) left targets) := by
  match targets, chain with
  | [], _ =>
    rw [visitAll]
    exact ⟨settled, fun _ => id, by simp⟩
  | a :: rest, chain =>
    rw [visitAll]
    have first := visit_answers apart visiting left a settled (chain a List.mem_cons_self)
      distinct inside
    split
    next after run =>
      rw [run] at first
      exact first.append (visitAll_answers apart visiting after rest first.1
        (fun b member => chain b (List.mem_cons_of_mem _ member)) distinct inside)
    next cycle run =>
      rw [run] at first
      exact first
termination_by ((unseen vertices visiting).length, targets.length)
decreasing_by
  · exact Prod.Lex.right _ (by simp)
  · exact Prod.Lex.right _ (by simp)

end

variable (apart : ∀ a ∈ vertices, ∀ b ∈ vertices, name a = name b → a = b)
include apart

/-- A cycle that is found is one. -/
theorem namesCycle_of_cycle?_eq_some (found : cycle? vertices edges name = some (closing, names)) :
    NamesCycle vertices edges name closing names := by
  have answers : Answers vertices edges name [] vertices
      (visitAll vertices edges name [] [] [] vertices) :=
    visitAll_answers apart [] [] vertices .nil (by simp) (by simp) (by simp)
  unfold cycle? at found
  split at found
  next => cases found
  next other run =>
    obtain rfl : other = (closing, names) := Option.some.inj found
    rw [run] at answers
    exact answers

/-- No cycle is found if and only if there is none. -/
theorem cycle?_eq_none_iff :
    cycle? vertices edges name = none ↔ ∀ a, ¬TransGen (Edge vertices edges) a a := by
  refine ⟨fun none a around => ?_, fun acyclic => ?_⟩
  · have answers : Answers vertices edges name [] vertices
        (visitAll vertices edges name [] [] [] vertices) :=
      visitAll_answers apart [] [] vertices .nil (by simp) (by simp) (by simp)
    obtain ⟨b, first, -⟩ := TransGen.head'_iff.mp around
    unfold cycle? at none
    split at none
    next left run =>
      rw [run] at answers
      exact answers.1.acyclic (answers.2.2 a first.1 first.1) around
    next => cases none
  · cases found : cycle? vertices edges name with
    | none => rfl
    | some answer =>
      obtain ⟨cycle, isCycle, -⟩ := namesCycle_of_cycle?_eq_some apart found
      obtain ⟨a, around⟩ := isCycle.transGen
      exact absurd around (acyclic a)

end Walk

end TreeSchema.Graph
