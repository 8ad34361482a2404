import TreeSchema.Proofs.Render.Correctness

/-!
The files of a schema that passes the check: one for each category, with one record for each node.
-/

namespace TreeSchema

open Source

variable {schema : Schema} {index : Index} {category : Category} {node : Node} {file : File}
  {record : Record} {files : List File} {collaborators : Collaborators} {c : Nat}

/-- The record is the one of the node. -/
structure Source.Record.IsOf (record : Record) (collaborators : Collaborators) (node : Node) :
    Prop where
  name : record.name = node.name
  tag : record.tag = node.tag
  lifetime : record.lifetime = node.needsLifetime
  fields : record.fields =
    node.fields.map fun field => (field.name, field.type.typeExpr collaborators)
  body : node.body? = some record.body

theorem Node.record?_eq_some_iff :
    node.record? collaborators = some record ↔ record.IsOf collaborators node := by
  unfold Node.record?
  constructor
  · intro made
    obtain ⟨body, emitted, same⟩ := Option.bind_eq_some_iff.mp made
    obtain rfl := Option.some.inj same
    exact ⟨rfl, rfl, rfl, rfl, emitted⟩
  · rintro ⟨name, tag, lifetime, fields, body⟩
    obtain ⟨_, _, _, _, _⟩ := record
    subst name tag lifetime fields
    rw [body]
    rfl

/-- The file is the one of category number `c`. -/
structure Source.File.IsOf (file : File) (schema : Schema) (index : Index) (c : Nat)
    (category : Category) : Prop where
  union : file.union = category.name
  module : file.module = category.moduleName
  arena : file.arena = simpleName schema.collaborators.arena
  lexeme : file.lexeme = schema.collaborators.lexeme
  imports : file.imports = TreeSchema.imports schema index c category.fieldTypes
  records : List.Forall₂ (fun node record => record.IsOf schema.collaborators node)
    category.nodes file.records

theorem Category.file?_eq_some_iff :
    category.file? schema index c = some file ↔ file.IsOf schema index c category := by
  unfold Category.file?
  constructor
  · intro made
    obtain ⟨records, emitted, same⟩ := Option.bind_eq_some_iff.mp made
    obtain rfl := Option.some.inj same
    simp only [mapM_eq_some_iff_forall₂, Node.record?_eq_some_iff] at emitted
    exact ⟨rfl, rfl, rfl, rfl, rfl, emitted⟩
  · rintro ⟨union, module, arena, lexeme, imports, records⟩
    obtain ⟨_, _, _, _, _, _⟩ := file
    subst union module arena lexeme imports
    simp only [← Node.record?_eq_some_iff, ← mapM_eq_some_iff_forall₂] at records
    rw [records]
    rfl

namespace Schema

/-- The files are those of the categories, in their order. -/
structure HasFiles (schema : Schema) (index : Index) (files : List File) : Prop where
  length : files.length = schema.categories.length
  isOf : ∀ {c : Nat} {category : Category} {file : File}, schema.categories[c]? = some category →
    files[c]? = some file → file.IsOf schema index c category

theorem exists_file? (checked : schema.check = .ok index) (among : category ∈ schema.categories) :
    ∃ file, category.file? schema index c = some file := by
  have each : ∀ node ∈ category.nodes,
      ∃ record : Record, record.IsOf schema.collaborators node := by
    intro node member
    obtain ⟨body, emitted, -⟩ := exists_body?_of_check checked among member
    exact ⟨⟨_, _, _, _, body⟩, rfl, rfl, rfl, rfl, emitted⟩
  obtain ⟨records, made⟩ := exists_forall₂ each
  exact ⟨⟨_, _, _, _, _, records⟩, Category.file?_eq_some_iff.mpr ⟨rfl, rfl, rfl, rfl, rfl, made⟩⟩

theorem exists_files (checked : schema.check = .ok index) :
    ∃ files, schema.files = .ok files ∧ schema.HasFiles index files := by
  have each : ∀ entry ∈ schema.categories.zipIdx,
      ∃ file, entry.1.file? schema index entry.2 = some file := by
    rintro ⟨category, c⟩ member
    exact exists_file? checked (List.mem_of_getElem? (List.mem_zipIdx_iff_getElem?.mp member))
  obtain ⟨files, made⟩ := exists_forall₂ each
  refine ⟨files, ?_, ?_, ?_⟩
  · unfold Schema.files
    rw [checked]
    simp [mapM_eq_some_iff_forall₂.mpr made]
  · simpa using made.length_eq.symm
  · intro c category file inside place
    have entry : schema.categories.zipIdx[c]? = some (category, c) := by
      simp [List.getElem?_zipIdx, inside]
    have emitted := forall₂_getElem? made entry place
    exact Category.file?_eq_some_iff.mp emitted

end Schema

end TreeSchema
