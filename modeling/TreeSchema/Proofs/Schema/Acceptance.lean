import TreeSchema.Proofs.Graph.Cycle
import TreeSchema.Proofs.Schema.Programs

/-!
The check accepts exactly the well-formed schemas.
-/

namespace TreeSchema.Schema

open Relation

variable {schema : Schema} {index : Index} {c : Nat} {categories : List Category}

theorem checkNode_eq_ok_iff (isIndex : schema.IsIndex index) {node : Node}
    (distinct : (node.fields.map (·.name)).Nodup) :
    checkNode schema index c node = .ok () ↔
      (∀ field ∈ node.fields, ∀ name, field.type.target? = some name → schema.Reaches c name) ∧
      node.WellRendered := by
  rw [checkNode, seq_eq_ok_iff, forM_eq_ok_iff, checkRender_eq_ok_iff distinct]
  simp only [checkReference_eq_ok_iff isIndex]

theorem checkNodes_eq_ok_iff :
    checkNodes schema index c categories = .ok () ↔
      ∀ d category, categories[d]? = some category →
        ∀ node ∈ category.nodes, checkNode schema index (c + d) node = .ok () := by
  induction categories generalizing c with
  | nil => simp [checkNodes]
  | cons category rest ih =>
    rw [checkNodes, seq_eq_ok_iff, forM_eq_ok_iff, ih]
    constructor
    · rintro ⟨first, others⟩ d other found
      cases d with
      | zero =>
        obtain rfl : category = other := by simpa using found
        exact first
      | succ d =>
        have later := others d other (by simpa using found)
        rwa [Nat.add_right_comm, Nat.add_assoc] at later
    · intro all
      refine ⟨all 0 category rfl, fun d other found => ?_⟩
      have later := all (d + 1) other (by simpa using found)
      rwa [← Nat.add_assoc, Nat.add_right_comm] at later

/-! ### Embedding -/

theorem mem_records_iff {position : Nat × Nat} :
    position ∈ schema.records ↔ ∃ node, schema.node? position.1 position.2 = some node := by
  obtain ⟨c, n⟩ := position
  simp only [records, List.mem_flatMap, List.mem_map, List.mem_range, node?_eq_some_iff]
  constructor
  · rintro ⟨⟨category, d⟩, member, m, inside, same⟩
    obtain ⟨rfl, rfl⟩ := Prod.mk.inj same
    exact ⟨category.nodes[m], category, List.mem_zipIdx_iff_getElem?.mp member,
      List.getElem?_eq_getElem inside⟩
  · rintro ⟨node, category, found, place⟩
    exact ⟨(category, c), List.mem_zipIdx_iff_getElem?.mpr found, n,
      (List.getElem?_eq_some_iff.mp place).1, rfl⟩

theorem IsIndex.resolve_eq_record_iff (isIndex : schema.IsIndex index) {name : String} {n : Nat} :
    index.resolve name = some (.record c n) ↔
      ∃ node, schema.node? c n = some node ∧ node.name = name := by
  rw [isIndex]
  simp only [node?_eq_some_iff]
  constructor
  · rintro ⟨⟩
    exact ⟨_, ⟨_, ‹_›, ‹_›⟩, rfl⟩
  · rintro ⟨node, ⟨category, found, place⟩, rfl⟩
    exact .record found place

theorem IsIndex.bind_resolve_eq_record_iff (isIndex : schema.IsIndex index) {name? : Option String}
    {n : Nat} : name?.bind index.resolve = some (.record c n) ↔
      ∃ record, schema.node? c n = some record ∧ name? = some record.name := by
  rw [Option.bind_eq_some_iff]
  simp only [isIndex.resolve_eq_record_iff]
  constructor
  · rintro ⟨name, rfl, record, found, rfl⟩
    exact ⟨record, found, rfl⟩
  · rintro ⟨record, found, rfl⟩
    exact ⟨_, rfl, record, found, rfl⟩

theorem mem_embedded_iff (isIndex : schema.IsIndex index) {holder held : Nat × Nat} :
    held ∈ schema.embedded index holder ↔ schema.Embeds holder held := by
  unfold embedded Embeds
  cases schema.node? holder.1 holder.2 with
  | none => simp
  | some node =>
    simp only [List.mem_filterMap]
    constructor
    · rintro ⟨field, member, edge⟩
      split at edge
      next c n known =>
        obtain rfl := Option.some.inj edge
        obtain ⟨record, found, named⟩ := isIndex.bind_resolve_eq_record_iff.mp known
        exact ⟨node, record, rfl, found, field, member, named⟩
      next => cases edge
    · rintro ⟨_, record, same, found, field, member, named⟩
      obtain rfl := Option.some.inj same
      have known := isIndex.bind_resolve_eq_record_iff.mpr ⟨record, found, named⟩
      exact ⟨field, member, by rw [known]⟩

theorem edge_iff_embeds (isIndex : schema.IsIndex index) {holder held : Nat × Nat} :
    Graph.Edge schema.records (schema.embedded index) holder held ↔ schema.Embeds holder held := by
  rw [Graph.Edge, mem_embedded_iff isIndex, mem_records_iff]
  exact ⟨And.right, fun embeds => ⟨⟨_, embeds.choose_spec.choose_spec.1⟩, embeds⟩⟩

theorem IsIndex.resolve_nodeName (isIndex : schema.IsIndex index) {position : Nat × Nat}
    (inside : position ∈ schema.records) :
    index.resolve (schema.nodeName position) = some (.record position.1 position.2) := by
  obtain ⟨node, found⟩ := mem_records_iff.mp inside
  refine isIndex.resolve_eq_record_iff.mpr ⟨node, found, ?_⟩
  rw [nodeName, found]
  rfl

/-- Records of different positions have different names. -/
theorem IsIndex.nodeName_injOn (isIndex : schema.IsIndex index) :
    ∀ position ∈ schema.records, ∀ other ∈ schema.records,
      schema.nodeName position = schema.nodeName other → position = other := by
  intro position inside other insideToo same
  have resolved := isIndex.resolve_nodeName inside
  rw [same, isIndex.resolve_nodeName insideToo] at resolved
  obtain ⟨categories, nodes⟩ := Target.record.inj (Option.some.inj resolved)
  exact Prod.ext categories.symm nodes.symm

theorem checkEmbedding_eq_ok_iff (isIndex : schema.IsIndex index) :
    schema.checkEmbedding index = .ok () ↔
      ∀ position, ¬TransGen schema.Embeds position position := by
  have same : Graph.Edge schema.records (schema.embedded index) = schema.Embeds := by
    funext holder held
    exact propext (edge_iff_embeds isIndex)
  rw [← same, ← Graph.cycle?_eq_none_iff isIndex.nodeName_injOn, checkEmbedding]
  cases Graph.cycle? schema.records (schema.embedded index) schema.nodeName with
  | none => simp
  | some cycle => simp

/-! ### The check -/

theorem check_eq_ok_iff :
    schema.check = .ok index ↔
      checkNames schema.collaborators.reservedNames 0 ⟨[], .empty⟩ schema.categories = .ok index ∧
      checkNodes schema index 0 schema.categories = .ok () ∧
      schema.checkEmbedding index = .ok () := by
  rw [check, bind_eq_ok_iff]
  constructor
  · rintro ⟨made, names, rest⟩
    obtain ⟨nodes, rest⟩ := seq_eq_ok_iff.mp rest
    obtain ⟨embedding, same⟩ := seq_eq_ok_iff.mp rest
    obtain rfl : made = index := Except.ok.inj same
    exact ⟨names, nodes, embedding⟩
  · rintro ⟨names, nodes, embedding⟩
    exact ⟨index, names, seq_eq_ok_iff.mpr ⟨nodes, seq_eq_ok_iff.mpr ⟨embedding, rfl⟩⟩⟩

/-- The first part of the check that fails is the one that reports. -/
theorem check_eq_error_iff {defect : Defect} :
    schema.check = .error defect ↔
      checkNames schema.collaborators.reservedNames 0 ⟨[], .empty⟩ schema.categories =
        .error defect ∨
      ∃ index, checkNames schema.collaborators.reservedNames 0 ⟨[], .empty⟩ schema.categories =
        .ok index ∧
        (checkNodes schema index 0 schema.categories = .error defect ∨
          checkNodes schema index 0 schema.categories = .ok () ∧
          schema.checkEmbedding index = .error defect) := by
  rw [check, bind_eq_error_iff]
  apply or_congr_right
  apply exists_congr
  intro index
  have done : (pure index : Except Defect Index) ≠ .error defect := nofun
  rw [seq_eq_error_iff, seq_eq_error_iff]
  simp only [done, and_false, or_false]

/-- Where the records held by value have a smaller rank than their holder, names and nodes are all
that is to be checked. -/
theorem check_eq_ok_of_ranked (rank : Nat × Nat → Nat)
    (names : checkNames schema.collaborators.reservedNames 0 ⟨[], .empty⟩ schema.categories =
      .ok index)
    (nodes : checkNodes schema index 0 schema.categories = .ok ())
    (falls : ∀ position ∈ schema.records, ∀ held ∈ schema.embedded index position,
      rank held < rank position) :
    schema.check = .ok index := by
  have isIndex := isIndex_of_checkNames names
  have step : ∀ holder held, schema.Embeds holder held → rank held < rank holder := by
    intro holder held embeds
    have inside := (mem_embedded_iff isIndex).mpr embeds
    obtain ⟨node, -, found, -⟩ := embeds
    exact falls holder (mem_records_iff.mpr ⟨node, found⟩) held inside
  refine check_eq_ok_iff.mpr ⟨names, nodes, (checkEmbedding_eq_ok_iff isIndex).mpr ?_⟩
  have below : ∀ holder held, TransGen schema.Embeds holder held → rank held < rank holder := by
    intro holder held path
    induction path with
    | single embeds => exact step _ _ embeds
    | tail _ embeds ih => exact (step _ _ embeds).trans ih
  exact fun position cycle => (below position position cycle).false

/-- Where no record holds another one by value, names and nodes are all that is to be checked. -/
theorem check_eq_ok_of_flat
    (names : checkNames schema.collaborators.reservedNames 0 ⟨[], .empty⟩ schema.categories =
      .ok index)
    (nodes : checkNodes schema index 0 schema.categories = .ok ())
    (flat : ∀ position ∈ schema.records, schema.embedded index position = []) :
    schema.check = .ok index := by
  refine check_eq_ok_of_ranked (fun _ => 0) names nodes fun position inside held isHeld => ?_
  rw [flat position inside] at isHeld
  cases isHeld

theorem checkNodes_eq_ok_iff_of_wellNamed (isIndex : schema.IsIndex index)
    {reserved : List String} (named : ∀ category ∈ schema.categories, category.WellNamed reserved) :
    checkNodes schema index 0 schema.categories = .ok () ↔
      (∀ c category, schema.categories[c]? = some category → ∀ node ∈ category.nodes,
        ∀ field ∈ node.fields, ∀ name, field.type.target? = some name → schema.Reaches c name) ∧
      ∀ category ∈ schema.categories, ∀ node ∈ category.nodes, node.WellRendered := by
  have each : ∀ c category, schema.categories[c]? = some category → ∀ node ∈ category.nodes,
      (checkNode schema index c node = .ok () ↔
        (∀ field ∈ node.fields, ∀ name, field.type.target? = some name → schema.Reaches c name) ∧
        node.WellRendered) := by
    intro c category found node member
    have inside := named category (List.mem_of_getElem? found)
    exact checkNode_eq_ok_iff isIndex (inside.nodes node member).distinct
  rw [checkNodes_eq_ok_iff]
  simp only [Nat.zero_add]
  constructor
  · intro checked
    refine ⟨fun c category found node member => ?_, fun category among node member => ?_⟩
    · exact ((each c category found node member).mp (checked c category found node member)).1
    · obtain ⟨c, found⟩ := List.mem_iff_getElem?.mp among
      exact ((each c category found node member).mp (checked c category found node member)).2
  · rintro ⟨targets, renders⟩ c category found node member
    have among := List.mem_of_getElem? found
    exact (each c category found node member).mpr
      ⟨targets c category found node member, renders category among node member⟩

theorem isIndex_of_check (checked : schema.check = .ok index) : schema.IsIndex index :=
  isIndex_of_checkNames (check_eq_ok_iff.mp checked).1

theorem wellFormed_of_check (checked : schema.check = .ok index) : schema.WellFormed := by
  obtain ⟨names, nodes, embedding⟩ := check_eq_ok_iff.mp checked
  have isIndex := isIndex_of_checkNames names
  obtain ⟨named, modules, distinct⟩ := exists_checkNames_eq_ok_iff.mp ⟨index, names⟩
  obtain ⟨targets, renders⟩ := (checkNodes_eq_ok_iff_of_wellNamed isIndex named).mp nodes
  exact ⟨named, modules, distinct, targets, renders,
    (checkEmbedding_eq_ok_iff isIndex).mp embedding⟩

theorem WellFormed.exists_check (wellFormed : schema.WellFormed) :
    ∃ index, schema.check = .ok index := by
  obtain ⟨named, modules, distinct, targets, renders, acyclic⟩ := wellFormed
  obtain ⟨index, names⟩ := exists_checkNames_eq_ok_iff.mpr ⟨named, modules, distinct⟩
  have isIndex := isIndex_of_checkNames names
  exact ⟨index, check_eq_ok_iff.mpr ⟨names,
    (checkNodes_eq_ok_iff_of_wellNamed isIndex named).mpr ⟨targets, renders⟩,
    (checkEmbedding_eq_ok_iff isIndex).mpr acyclic⟩⟩

/-- The check succeeds for the well-formed schemas and for no others. -/
theorem exists_check_eq_ok_iff_wellFormed :
    (∃ index, schema.check = .ok index) ↔ schema.WellFormed :=
  ⟨fun ⟨_, checked⟩ => wellFormed_of_check checked, WellFormed.exists_check⟩

end TreeSchema.Schema
