import TreeSchema.Proofs.Schema.Acceptance

/-!
Records that hold themselves by value. The check refuses them and no others, and what it reports is
a way from a record back to it by names that are in the schema.
-/

namespace TreeSchema.Schema

open Relation

variable {schema : Schema} {index : Index} {position other : Nat × Nat}

/-- A record of the first name has a field that holds a value of the second type. -/
def Holds (schema : Schema) (holder held : String) : Prop :=
  ∃ category ∈ schema.categories, ∃ node ∈ category.nodes, node.name = holder ∧
    ∃ field ∈ node.fields, field.type.embeds? = some held

/-- The names lead from a record back to it, each record holding the next one, and to no other
record twice. -/
structure HoldsItself (schema : Schema) (record : String) (names : List String) : Prop where
  long : 2 ≤ names.length
  starts : names.head? = some record
  ends : names.getLast? = some record
  holds : names.IsChain schema.Holds
  distinct : names.dropLast.Nodup

theorem holds_nodeName (embeds : schema.Embeds position other) :
    schema.Holds (schema.nodeName position) (schema.nodeName other) := by
  obtain ⟨node, record, found, there, field, member, named⟩ := embeds
  obtain ⟨category, inside, place⟩ := node?_eq_some_iff.mp found
  refine ⟨category, List.mem_of_getElem? inside, node, List.mem_of_getElem? place, ?_, field,
    member, ?_⟩
  · rw [nodeName, found]
    rfl
  · rw [nodeName, there]
    exact named

theorem holdsItself_of_namesCycle {record : String} {names : List String}
    (isIndex : schema.IsIndex index)
    (found : Graph.NamesCycle schema.records (schema.embedded index) schema.nodeName record names) :
    schema.HoldsItself record names := by
  obtain ⟨cycle, isCycle, rfl, ends⟩ := found
  refine ⟨?_, ?_, ends, ?_, ?_⟩
  · rw [List.length_map]
    exact isCycle.long
  · rw [← ends, List.getLast?_map, List.head?_map, isCycle.closed]
  · rw [List.isChain_map]
    refine isCycle.chain.imp ?_
    intro holder held edge
    exact holds_nodeName ((edge_iff_embeds isIndex).mp edge)
  · rw [← List.map_dropLast]
    refine List.Nodup.map_on ?_ isCycle.nodup_dropLast
    intro first inFront second inFrontToo same
    have inside := isCycle.mem_vertices (List.dropLast_subset cycle inFront)
    have insideToo := isCycle.mem_vertices (List.dropLast_subset cycle inFrontToo)
    exact isIndex.nodeName_injOn first inside second insideToo same

theorem holdsItself_of_cycle?_eq_some {record : String} {names : List String}
    (isIndex : schema.IsIndex index)
    (found : Graph.cycle? schema.records (schema.embedded index) schema.nodeName =
      some (record, names)) : schema.HoldsItself record names :=
  holdsItself_of_namesCycle isIndex (Graph.namesCycle_of_cycle?_eq_some isIndex.nodeName_injOn found)

theorem exists_of_checkEmbedding_eq_error {defect : Defect} (isIndex : schema.IsIndex index)
    (refused : schema.checkEmbedding index = .error defect) :
    ∃ record names, defect = .recordCycle record names ∧ schema.HoldsItself record names := by
  unfold checkEmbedding at refused
  split at refused
  next => cases refused
  next record names found =>
    cases refused
    exact ⟨record, names, rfl, holdsItself_of_cycle?_eq_some isIndex found⟩

/-- Where names are unique, the check of embedding succeeds if no record comes back to itself along
fields that hold records, and else reports one that does with the records on its way. No answer is
closed at a name that is not on the path. -/
theorem checkEmbedding_exact (unique : schema.typeNames.Nodup) :
    (schema.checkEmbedding schema.nameIndex = .ok () ↔
      ∀ position, ¬TransGen schema.Embeds position position) ∧
    (∀ defect, schema.checkEmbedding schema.nameIndex = .error defect →
      ∃ record names, defect = .recordCycle record names ∧ schema.HoldsItself record names) ∧
    ∀ path name, Graph.cycle? schema.records (schema.embedded schema.nameIndex) schema.nodeName =
      some (name, Graph.closeCycle path name) → path.reverse.idxOf? name ≠ none := by
  have isIndex := isIndex_nameIndex unique
  refine ⟨checkEmbedding_eq_ok_iff isIndex, ?_, ?_⟩
  · intro defect refused
    exact exists_of_checkEmbedding_eq_error isIndex refused
  · intro path name found nowhere
    have holdsItself := holdsItself_of_cycle?_eq_some isIndex found
    have onPath : name ∈ path := Graph.mem_of_closeCycle holdsItself.starts holdsItself.long
    rw [List.idxOf?_eq_none_iff, List.mem_reverse] at nowhere
    exact nowhere onPath

/-- The walk comes from the first record to the cycle, which leaves it out, and passes a record that
is not on the cycle before. -/
theorem checkEmbedding_of_inner_cycle :
    let schema : Schema := ⟨{}, [⟨"Expr", none, [
      ⟨"CallExpr", "Call", [⟨"block", .node "BlockExpr"⟩], .custom []⟩,
      ⟨"BlockExpr", "Block", [⟨"name", .node "NameExpr"⟩, ⟨"body", .optionalNode "BodyExpr"⟩],
        .custom []⟩,
      ⟨"BodyExpr", "Body", [⟨"name", .node "NameExpr"⟩, ⟨"block", .node "BlockExpr"⟩],
        .custom []⟩,
      ⟨"NameExpr", "Name", [⟨"parts", .sequence "NameExpr"⟩], .custom []⟩]⟩]⟩
    schema.typeNames.Nodup ∧
    schema.checkEmbedding schema.nameIndex =
      .error (.recordCycle "BlockExpr" ["BlockExpr", "BodyExpr", "BlockExpr"]) ∧
    schema.HoldsItself "BlockExpr" ["BlockExpr", "BodyExpr", "BlockExpr"] := by
  intro schema
  have unique : schema.typeNames.Nodup := by decide
  have records : schema.records = [(0, 0), (0, 1), (0, 2), (0, 3)] := by decide
  have call : schema.embedded schema.nameIndex (0, 0) = [(0, 1)] := by decide
  have block : schema.embedded schema.nameIndex (0, 1) = [(0, 3), (0, 2)] := by decide
  have body : schema.embedded schema.nameIndex (0, 2) = [(0, 3), (0, 1)] := by decide
  have name : schema.embedded schema.nameIndex (0, 3) = [] := by decide
  have closed : Graph.closeCycle ["BodyExpr", "BlockExpr", "CallExpr"] "BlockExpr" =
      ["BlockExpr", "BodyExpr", "BlockExpr"] := by
    decide
  have found : Graph.cycle? schema.records (schema.embedded schema.nameIndex) schema.nodeName =
      some ("BlockExpr", ["BlockExpr", "BodyExpr", "BlockExpr"]) := by
    have names : schema.nodeName (0, 0) = "CallExpr" ∧ schema.nodeName (0, 1) = "BlockExpr" ∧
        schema.nodeName (0, 2) = "BodyExpr" := by
      decide
    simp [Graph.cycle?, Graph.visitAll, Graph.visit, records, call, block, body, name, closed,
      names]
  have refused : schema.checkEmbedding schema.nameIndex =
      .error (.recordCycle "BlockExpr" ["BlockExpr", "BodyExpr", "BlockExpr"]) := by
    rw [checkEmbedding, found]
  obtain ⟨record, names, same, holdsItself⟩ := (checkEmbedding_exact unique).2.1 _ refused
  cases same
  exact ⟨unique, refused, holdsItself⟩

end TreeSchema.Schema
