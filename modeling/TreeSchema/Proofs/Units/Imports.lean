import TreeSchema.Proofs.Schema.Names
import TreeSchema.Source.OfSchema

/-!
The sibling imports of a unit: one line for each category that its fields refer to, in the order of
the categories, with sorted names.
-/

namespace TreeSchema

variable {name other : String} {names : List String} {index : Index} {c : Nat}
  {types : List FieldType}

/-! ### Sorted names -/

theorem mem_insertName_iff : other ∈ insertName name names ↔ other = name ∨ other ∈ names := by
  induction names with
  | nil => simp [insertName]
  | cons first rest ih =>
    rw [insertName]
    split
    next same => simp [same]
    next =>
      split
      · exact List.mem_cons
      · rw [List.mem_cons, ih, List.mem_cons, or_left_comm]

theorem pairwise_insertName (sorted : names.Pairwise (· < ·)) :
    (insertName name names).Pairwise (· < ·) := by
  induction names with
  | nil => exact List.pairwise_singleton _ _
  | cons first rest ih =>
    obtain ⟨before, sortedRest⟩ := List.pairwise_cons.mp sorted
    rw [insertName]
    split
    next => exact sorted
    next different =>
      split
      next less =>
        refine List.pairwise_cons.mpr ⟨fun other member => ?_, sorted⟩
        rcases List.mem_cons.mp member with rfl | later
        · exact less
        · exact String.lt_trans less (before other later)
      next notLess =>
        refine List.pairwise_cons.mpr ⟨fun other member => ?_, ih sortedRest⟩
        rcases mem_insertName_iff.mp member with rfl | later
        · exact String.not_le.mp fun le =>
            different (String.le_antisymm le (String.not_lt.mp notLess))
        · exact before other later

/-- A type refers to a name of a category. -/
def FieldType.RefersInto (type : FieldType) (index : Index) (c : Nat) (name : String) : Prop :=
  type.target? = some name ∧ (index.resolve name).map (·.category) = some c

/-- Adds the name that a type refers to, if it is one of the category. -/
def collectName (index : Index) (c : Nat) (names : List String) (type : FieldType) : List String :=
  match type.target? with
  | none => names
  | some name =>
    if (index.resolve name).map (·.category) = some c then insertName name names else names

theorem namesFrom_eq_foldl : namesFrom index c types = types.foldl (collectName index c) [] :=
  rfl

theorem mem_collectName_iff {type : FieldType} :
    name ∈ collectName index c names type ↔ name ∈ names ∨ type.RefersInto index c name := by
  unfold collectName FieldType.RefersInto
  cases type.target? with
  | none => simp
  | some target =>
    rw [Option.some.injEq]
    dsimp only
    split
    next inside =>
      rw [mem_insertName_iff, or_comm]
      refine or_congr_right ⟨?_, fun refers => refers.1.symm⟩
      rintro rfl
      exact ⟨rfl, inside⟩
    next outside =>
      refine ⟨.inl, fun h => h.resolve_right ?_⟩
      rintro ⟨rfl, inside⟩
      exact outside inside

theorem pairwise_collectName {type : FieldType} (sorted : names.Pairwise (· < ·)) :
    (collectName index c names type).Pairwise (· < ·) := by
  unfold collectName
  split
  · exact sorted
  · split
    · exact pairwise_insertName sorted
    · exact sorted

theorem pairwise_foldl_collectName (sorted : names.Pairwise (· < ·)) :
    (types.foldl (collectName index c) names).Pairwise (· < ·) := by
  induction types generalizing names with
  | nil => exact sorted
  | cons type rest ih => exact ih (pairwise_collectName sorted)

theorem mem_foldl_collectName_iff : name ∈ types.foldl (collectName index c) names ↔
    name ∈ names ∨ ∃ type ∈ types, type.RefersInto index c name := by
  induction types generalizing names with
  | nil => simp
  | cons type rest ih =>
    rw [List.foldl_cons, ih, mem_collectName_iff, or_assoc, List.exists_mem_cons_iff]

theorem pairwise_namesFrom : (namesFrom index c types).Pairwise (· < ·) :=
  pairwise_foldl_collectName .nil

theorem mem_namesFrom_iff :
    name ∈ namesFrom index c types ↔ ∃ type ∈ types, type.RefersInto index c name := by
  rw [namesFrom_eq_foldl, mem_foldl_collectName_iff]
  simp

/-! ### Lines -/

section Siblings

variable {schema : Schema} {sibling : Category} {d : Nat}

/-- The other categories that the types refer to, with their positions. -/
def siblings (schema : Schema) (index : Index) (c : Nat) (types : List FieldType) :
    List (Category × Nat) :=
  schema.categories.zipIdx.filter fun (_, d) => d ≠ c ∧ namesFrom index d types ≠ []

theorem siblingImports_eq_map :
    siblingImports schema index c types = (siblings schema index c types).map fun (sibling, d) =>
      .sibling schema.collaborators.siblingPrefix sibling.moduleName (namesFrom index d types) := by
  unfold siblingImports siblings
  induction schema.categories.zipIdx with
  | nil => rfl
  | cons entry rest ih =>
    obtain ⟨sibling, d⟩ := entry
    rw [List.filterMap_cons, ih, List.filter_cons]
    by_cases same : d = c
    · simp [same]
    · cases names : namesFrom index d types <;> simp [same, names]

theorem mem_siblings_iff : (sibling, d) ∈ siblings schema index c types ↔
    schema.categories[d]? = some sibling ∧ d ≠ c ∧ namesFrom index d types ≠ [] := by
  rw [siblings, List.mem_filter, List.mem_zipIdx_iff_getElem?, decide_eq_true_iff]

theorem pairwise_siblings :
    ((siblings schema index c types).map (·.2)).Pairwise (· < ·) := by
  have increasing : (schema.categories.zipIdx.map (·.2)).Pairwise (· < ·) := by
    rw [List.zipIdx_map_snd]
    exact List.pairwise_lt_range'
  exact increasing.sublist (List.filter_sublist.map _)

end Siblings

end TreeSchema
