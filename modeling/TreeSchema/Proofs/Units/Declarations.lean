import TreeSchema.Proofs.Units.Files

/-!
What units declare. The names that the units of a schema declare are those that the schema declares,
and a name that fields may refer to is declared with the arena's lifetime.
-/

namespace TreeSchema

open Source

namespace Source.File

/-- The types that a unit declares, and whether with the lifetime. -/
def declared (file : File) : List (String × Bool) :=
  (file.union, true) :: file.records.map fun record => (record.name, record.lifetime)

def Declares (file : File) (name : String) : Prop :=
  name ∈ file.declared.map (·.1)

end Source.File

variable {schema : Schema} {index : Index} {category : Category} {node : Node} {file other : File}
  {record : Record} {files : List File} {type : FieldType} {target : Target} {name : String}
  {c d n : Nat}

/-! ### Records and nodes -/

theorem Category.mem_fieldTypes_iff : type ∈ category.fieldTypes ↔
    ∃ node ∈ category.nodes, ∃ field ∈ node.fields, field.type = type := by
  simp [fieldTypes]

namespace Source.File.IsOf

variable (isOf : file.IsOf schema index c category)
include isOf

theorem exists_record (inside : category.nodes[n]? = some node) :
    ∃ record ∈ file.records, record.IsOf schema.collaborators node := by
  obtain ⟨before, -⟩ := List.getElem?_eq_some_iff.mp inside
  have place := List.getElem?_eq_getElem (isOf.records.length_eq ▸ before)
  have same := forall₂_getElem? isOf.records inside place
  exact ⟨_, List.mem_of_getElem? place, same⟩

theorem exists_node (place : file.records[n]? = some record) :
    ∃ node, category.nodes[n]? = some node ∧ record.IsOf schema.collaborators node := by
  obtain ⟨before, -⟩ := List.getElem?_eq_some_iff.mp place
  have inside := List.getElem?_eq_getElem (isOf.records.length_eq.symm ▸ before)
  have same := forall₂_getElem? isOf.records inside place
  exact ⟨_, inside, same⟩

/-- The unit declares what its category declares. -/
theorem declares_iff (found : schema.categories[c]? = some category) :
    file.Declares name ↔ ∃ target, schema.Declares name target ∧ target.category = c := by
  simp only [File.Declares, File.declared, List.map_cons, List.map_map, List.mem_cons,
    List.mem_map, Function.comp_apply]
  constructor
  · rintro (rfl | ⟨record, among, rfl⟩)
    · exact ⟨.union c, isOf.union ▸ .union found, rfl⟩
    · obtain ⟨n, place⟩ := List.mem_iff_getElem?.mp among
      obtain ⟨node, inside, same⟩ := isOf.exists_node place
      exact ⟨.record c n, same.name ▸ .record found inside, rfl⟩
  · rintro ⟨target, declared, rfl⟩
    cases declared with
    | union known =>
      obtain rfl := Option.some.inj (found.symm.trans known)
      exact .inl isOf.union.symm
    | record known inside =>
      obtain rfl := Option.some.inj (found.symm.trans known)
      obtain ⟨record, among, same⟩ := isOf.exists_record inside
      exact .inr ⟨record, among, same.name⟩

end Source.File.IsOf

/-! ### The units of a schema -/

namespace Schema

theorem IsIndex.resolve_category_iff (isIndex : schema.IsIndex index) :
    (index.resolve name).map (·.category) = some d ↔
      ∃ target, schema.Declares name target ∧ target.category = d := by
  rw [Option.map_eq_some_iff]
  exact exists_congr fun target => and_congr_left' (isIndex name target)

namespace HasFiles

variable (hasFiles : schema.HasFiles index files)
include hasFiles

theorem exists_category (place : files[d]? = some other) :
    ∃ category, schema.categories[d]? = some category ∧ other.IsOf schema index d category := by
  obtain ⟨before, -⟩ := List.getElem?_eq_some_iff.mp place
  have found := List.getElem?_eq_getElem (hasFiles.length ▸ before)
  exact ⟨_, found, hasFiles.isOf found place⟩

theorem exists_file (found : schema.categories[d]? = some category) :
    ∃ file, files[d]? = some file ∧ file.IsOf schema index d category := by
  obtain ⟨before, -⟩ := List.getElem?_eq_some_iff.mp found
  have place := List.getElem?_eq_getElem (hasFiles.length.symm ▸ before)
  exact ⟨_, place, hasFiles.isOf found place⟩

theorem declares_iff (isIndex : schema.IsIndex index) (place : files[d]? = some other) :
    other.Declares name ↔ (index.resolve name).map (·.category) = some d := by
  obtain ⟨category, found, isOf⟩ := hasFiles.exists_category place
  rw [isOf.declares_iff found, isIndex.resolve_category_iff]

/-- What is not plain is declared with the lifetime. -/
theorem exists_mem_declared (declared : schema.Declares name target)
    (embeddable : schema.isPlain target = false) :
    ∃ other, files[target.category]? = some other ∧ (name, true) ∈ other.declared := by
  cases declared with
  | union found =>
    obtain ⟨other, place, isOf⟩ := hasFiles.exists_file found
    exact ⟨other, place, isOf.union ▸ List.mem_cons_self⟩
  | @record d n category node found inside =>
    obtain ⟨other, place, isOf⟩ := hasFiles.exists_file found
    obtain ⟨record, among, same⟩ := isOf.exists_record inside
    have known := node?_eq_some_iff.mpr ⟨_, found, inside⟩
    have lifetime : record.lifetime = true := by
      rw [same.lifetime]
      simpa [isPlain, known] using embeddable
    refine ⟨other, place, List.mem_cons_of_mem _ (List.mem_map.mpr ⟨record, among, ?_⟩)⟩
    rw [same.name, lifetime]

end HasFiles

end Schema

end TreeSchema
