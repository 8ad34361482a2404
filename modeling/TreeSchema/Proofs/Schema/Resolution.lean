import TreeSchema.Proofs.Schema.Acceptance

/-!
What names resolve to once a schema is accepted. Categories and records share one namespace, in
which every name has one position, and the index leads from each name to its position and from any
other text to nothing.
-/

namespace TreeSchema.Schema

variable {schema : Schema} {index : Index} {name : String} {target other : Target} {c n : Nat}

theorem declares_union_iff : schema.Declares name (.union c) ↔
    ∃ category, schema.categories[c]? = some category ∧ category.name = name := by
  constructor
  · intro declared
    cases declared with
    | union found => exact ⟨_, found, rfl⟩
  · rintro ⟨category, found, rfl⟩
    exact .union found

theorem declares_record_iff : schema.Declares name (.record c n) ↔
    ∃ category node, schema.categories[c]? = some category ∧ category.nodes[n]? = some node ∧
      node.name = name := by
  constructor
  · intro declared
    cases declared with
    | record found inside => exact ⟨_, _, found, inside, rfl⟩
  · rintro ⟨category, node, found, inside, rfl⟩
    exact .record found inside

theorem notMem_typeNames_iff : name ∉ schema.typeNames ↔
    ∀ category ∈ schema.categories, category.name ≠ name ∧
      ∀ node ∈ category.nodes, node.name ≠ name := by
  constructor
  · intro absent category among
    constructor
    · rintro rfl
      exact absent (List.mem_flatMap.mpr ⟨category, among, List.mem_cons_self⟩)
    · rintro node member rfl
      exact absent (List.mem_flatMap.mpr
        ⟨category, among, List.mem_cons_of_mem _ (List.mem_map_of_mem member)⟩)
  · intro others present
    obtain ⟨category, among, inside⟩ := List.mem_flatMap.mp present
    obtain ⟨different, differentNodes⟩ := others category among
    rcases List.mem_cons.mp inside with same | inNodes
    · exact different same.symm
    · obtain ⟨node, member, same⟩ := List.mem_map.mp inNodes
      exact differentNodes node member same

theorem IsIndex.resolve_eq_none_iff (isIndex : schema.IsIndex index) :
    index.resolve name = none ↔ name ∉ schema.typeNames := by
  rw [Option.eq_none_iff_forall_ne_some, mem_typeNames_iff, not_exists]
  exact forall_congr' fun target => not_congr (isIndex name target)

/-- An index gives one answer, so a name has one position. -/
theorem IsIndex.eq_of_declares (isIndex : schema.IsIndex index)
    (declared : schema.Declares name target) (again : schema.Declares name other) :
    target = other := by
  have resolved := (isIndex name target).mpr declared
  rw [(isIndex name other).mpr again] at resolved
  exact (Option.some.inj resolved).symm

/-- The name resolves to the position that bears it, if there is one, and there are not two. -/
structure ResolvesExactly (schema : Schema) (index : Index) (name : String) : Prop where
  union : ∀ c, index.resolve name = some (.union c) ↔
    ∃ category, schema.categories[c]? = some category ∧ category.name = name
  record : ∀ c n, index.resolve name = some (.record c n) ↔
    ∃ category node, schema.categories[c]? = some category ∧ category.nodes[n]? = some node ∧
      node.name = name
  nothing : index.resolve name = none ↔
    ∀ category ∈ schema.categories, category.name ≠ name ∧
      ∀ node ∈ category.nodes, node.name ≠ name
  once : ∀ target other, schema.Declares name target → schema.Declares name other → target = other
  /-- The node at the position of a record is there, and has the name. -/
  node : ∀ c n, index.resolve name = some (.record c n) →
    ∃ node, schema.node? c n = some node ∧ node.name = name

theorem resolvesExactly_of_check (checked : schema.check = .ok index) (name : String) :
    schema.ResolvesExactly index name := by
  have isIndex : schema.IsIndex index := isIndex_of_check checked
  refine ⟨fun c => ?union, fun c n => ?record, ?nothing, fun target other declared again => ?once,
    fun c n resolved => ?node⟩
  case union =>
    rw [isIndex]
    exact declares_union_iff
  case record =>
    rw [isIndex]
    exact declares_record_iff
  case nothing =>
    rw [isIndex.resolve_eq_none_iff]
    exact notMem_typeNames_iff
  case once => exact isIndex.eq_of_declares declared again
  case node => exact isIndex.resolve_eq_record_iff.mp resolved

/-- Two categories may use a tag each, and a tag names nothing; a record may be called like another
one's tag. -/
theorem resolvesExactly_of_shared_tags :
    let schema : Schema := ⟨{}, [
      ⟨"Expr", none, [⟨"NumberExpr", "Number", [⟨"token", .token⟩], .template "{}" ["token"]⟩,
        ⟨"Group", "Parens", [⟨"inner", .node "Expr"⟩], .template "({})" ["inner"]⟩]⟩,
      ⟨"Stmt", none, [⟨"NumberStmt", "Number", [⟨"token", .token⟩], .template "{};" ["token"]⟩,
        ⟨"BlockStmt", "Group", [⟨"groups", .sequence "Group"⟩], .custom []⟩]⟩]⟩
    ∃ index, schema.check = .ok index ∧ index.resolve "Stmt" = some (.union 1) ∧
      index.resolve "Group" = some (.record 0 1) ∧ index.resolve "BlockStmt" = some (.record 1 1) ∧
      index.resolve "Number" = none := by
  intro schema
  let index : Index := ⟨[("BlockStmt", .record 1 1), ("NumberStmt", .record 1 0),
    ("Stmt", .union 1), ("Group", .record 0 1), ("NumberExpr", .record 0 0), ("Expr", .union 0)]⟩
  have checked : schema.check = .ok index :=
    check_eq_ok_of_flat (by decide +kernel) (by decide +kernel) (by decide +kernel)
  have exact := resolvesExactly_of_check checked
  refine ⟨index, checked, ?_, ?_, ?_, ?_⟩
  · exact ((exact "Stmt").union 1).mpr ⟨_, rfl, rfl⟩
  · exact ((exact "Group").record 0 1).mpr ⟨_, _, rfl, rfl, rfl⟩
  · exact ((exact "BlockStmt").record 1 1).mpr ⟨_, _, rfl, rfl, rfl⟩
  · exact (exact "Number").nothing.mpr (by decide)

end TreeSchema.Schema
