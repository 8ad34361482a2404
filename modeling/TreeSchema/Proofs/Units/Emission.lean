import TreeSchema.Failure
import TreeSchema.Proofs.Units.Declarations
import TreeSchema.Proofs.Units.Imports

/-!
A schema that passes the check is generated, with one unit for each category, and one that does not
is refused with the defect. Wherever positions are looked up, in the check or after it, something is
at them.
-/

namespace TreeSchema

open Relation Source

variable {schema : Schema} {index : Index} {files : List File} {target : Target}

/-- The category or node of the target exists. -/
def Schema.Has (schema : Schema) : Target → Prop
  | .union c => ∃ category, schema.categories[c]? = some category
  | .record c n => ∃ node, schema.node? c n = some node

/-- No position that is looked up by the index lies outside of the schema. -/
structure Schema.InBounds (schema : Schema) (index : Index) : Prop where
  targets : ∀ name target, index.resolve name = some target → schema.Has target
  /-- A category that something is imported from is there. -/
  siblings : ∀ c types, namesFrom index c types ≠ [] →
    ∃ category, schema.categories[c]? = some category
  /-- The walk from record to record that looks for cycles meets records only. -/
  walk : ∀ start ∈ schema.records, ∀ position,
    ReflTransGen (fun holder held => held ∈ schema.embedded index holder) start position →
      position ∈ schema.records ∧ ∃ node, schema.node? position.1 position.2 = some node

namespace Schema

theorem Declares.has {name : String} (declared : schema.Declares name target) :
    schema.Has target := by
  cases declared with
  | union found => exact ⟨_, found⟩
  | record found inside => exact ⟨_, node?_eq_some_iff.mpr ⟨_, found, inside⟩⟩

theorem Has.category (has : schema.Has target) :
    ∃ category, schema.categories[target.category]? = some category := by
  cases target with
  | union c => exact has
  | record c n =>
    obtain ⟨node, known⟩ := has
    obtain ⟨category, found, -⟩ := node?_eq_some_iff.mp known
    exact ⟨category, found⟩

namespace IsIndex

variable (isIndex : schema.IsIndex index)
include isIndex

theorem has_of_resolve {name : String} (resolved : index.resolve name = some target) :
    schema.Has target :=
  ((isIndex name target).mp resolved).has

theorem mem_records_of_embedded {holder held : Nat × Nat}
    (edge : held ∈ schema.embedded index holder) : held ∈ schema.records := by
  obtain ⟨node, record, -, found, -⟩ := (mem_embedded_iff isIndex).mp edge
  exact mem_records_iff.mpr ⟨record, found⟩

theorem mem_records_of_walk {start position : Nat × Nat} (inside : start ∈ schema.records)
    (walk : ReflTransGen (fun holder held => held ∈ schema.embedded index holder) start position) :
    position ∈ schema.records := by
  induction walk with
  | refl => exact inside
  | tail _ edge _ => exact isIndex.mem_records_of_embedded edge

theorem inBounds : schema.InBounds index where
  targets _ _ := isIndex.has_of_resolve
  siblings c types nonempty := by
    obtain ⟨name, member⟩ := List.exists_mem_of_ne_nil _ nonempty
    obtain ⟨type, -, -, placed⟩ := mem_namesFrom_iff.mp member
    obtain ⟨target, resolved, rfl⟩ := Option.map_eq_some_iff.mp placed
    exact (isIndex.has_of_resolve resolved).category
  walk start inside position walk := by
    have member := isIndex.mem_records_of_walk inside walk
    exact ⟨member, mem_records_iff.mp member⟩

end IsIndex

/-! ### Units -/

theorem HasFiles.map_unit (hasFiles : schema.HasFiles index files) :
    (files.map (·.unit)).map (fun unit => (unit.category, unit.module)) =
      schema.categories.map fun category => (category.name, category.moduleName) := by
  rw [List.map_map]
  refine List.ext_getElem (by simp [hasFiles.length]) fun c left right => ?_
  rw [List.length_map] at left right
  have isOf := hasFiles.isOf (List.getElem?_eq_getElem right) (List.getElem?_eq_getElem left)
  simp [File.unit, isOf.union, isOf.module]

theorem units_eq_ok_iff {units : List SourceUnit} :
    schema.units = .ok units ↔ ∃ files, schema.files = .ok files ∧ files.map (·.unit) = units := by
  unfold Schema.units generate
  cases schema.files with
  | error fault => simp [Except.map, Except.mapError]
  | ok files => simp [Except.map, Except.mapError]

theorem units_eq_error_of_check {defect : Defect} (refused : schema.check = .error defect) :
    schema.units = .error (.schema defect) := by
  unfold Schema.units generate files
  rw [refused]
  rfl

theorem exists_files_of_units {units : List SourceUnit} (made : schema.units = .ok units) :
    ∃ index files, schema.check = .ok index ∧ schema.HasFiles index files ∧
      files.map (·.unit) = units := by
  cases checked : schema.check with
  | error defect =>
    rw [units_eq_error_of_check checked] at made
    cases made
  | ok index =>
    obtain ⟨files, generated, hasFiles⟩ := exists_files checked
    obtain ⟨others, generatedToo, same⟩ := units_eq_ok_iff.mp made
    obtain rfl := Except.ok.inj (generated.symm.trans generatedToo)
    exact ⟨index, files, rfl, hasFiles, same⟩

/-- The units are those of the categories, in their order. -/
theorem map_of_units {units : List SourceUnit} (made : schema.units = .ok units) :
    units.map (fun unit => (unit.category, unit.module)) =
      schema.categories.map fun category => (category.name, category.moduleName) := by
  obtain ⟨index, files, -, hasFiles, rfl⟩ := exists_files_of_units made
  exact hasFiles.map_unit

theorem map_module_of_units {units : List SourceUnit} (made : schema.units = .ok units) :
    units.map (·.module) = schema.categories.map (·.moduleName) := by
  simpa [Function.comp_def] using congrArg (List.map Prod.snd) (map_of_units made)

/-- Generating succeeds with a unit for each category if the check does, and fails with the defect
if it fails. Once the names are read nothing is looked up where nothing is. -/
theorem units_of_check (schema : Schema) :
    (∀ index, schema.check = .ok index → ∃ units, schema.units = .ok units ∧
      units.map (fun unit => (unit.category, unit.module)) =
        schema.categories.map fun category => (category.name, category.moduleName)) ∧
    (∀ defect, schema.check = .error defect → schema.units = .error (.schema defect)) ∧
    ∀ index, checkNames schema.collaborators.reservedNames 0 ⟨[], .empty⟩ schema.categories =
      .ok index → schema.InBounds index := by
  refine ⟨fun index checked => ?_, fun defect => units_eq_error_of_check, fun index names => ?_⟩
  · obtain ⟨files, made, hasFiles⟩ := exists_files checked
    exact ⟨_, units_eq_ok_iff.mpr ⟨files, made, rfl⟩, hasFiles.map_unit⟩
  · exact (isIndex_of_checkNames names).inBounds

/-- A loop around a block that shows the loop's item after its own is generated, and the same loop
without the field it goes over is refused. -/
theorem units_of_nested_loop :
    let args : Field := ⟨"args", .sequence "Expr"⟩
    let mark : Field := ⟨"mark", .optionalToken⟩
    let render : Render := .custom [.forEach "args" [.ifPresent "mark" [.item], .item] ", "]
    let accepted : Schema := ⟨{}, [⟨"Expr", none, [⟨"CallExpr", "Call", [args, mark], render⟩]⟩,
      ⟨"Stmt", some "statement", [⟨"ExprStmt", "Expr", [⟨"value", .node "CallExpr"⟩],
        .template "{};" ["value"]⟩]⟩]⟩
    let refused : Schema := ⟨{}, [⟨"Expr", none, [⟨"CallExpr", "Call", [mark], render⟩]⟩]⟩
    (∃ index units, accepted.check = .ok index ∧ accepted.units = .ok units ∧
      units.map (fun unit => (unit.category, unit.module)) =
        [("Expr", "expr"), ("Stmt", "statement")] ∧ accepted.InBounds index) ∧
    refused.check = .error (.unknownField "CallExpr" "args") ∧
    refused.units = .error (.schema (.unknownField "CallExpr" "args")) := by
  intro args mark render accepted refused
  constructor
  · let index : Index := ⟨[("ExprStmt", .record 1 0), ("Stmt", .union 1),
      ("CallExpr", .record 0 0), ("Expr", .union 0)]⟩
    have names : checkNames accepted.collaborators.reservedNames 0 ⟨[], .empty⟩
        accepted.categories = .ok index := by
      decide +kernel
    have nodes : checkNodes accepted index 0 accepted.categories = .ok () := by
      decide +kernel
    have embedding : accepted.checkEmbedding index = .ok () := by
      have records : accepted.records = [(0, 0), (1, 0)] := by decide
      have call : accepted.embedded index (0, 0) = [] := by decide
      have stmt : accepted.embedded index (1, 0) = [(0, 0)] := by decide
      simp [checkEmbedding, Graph.cycle?, Graph.visitAll, Graph.visit, records, call, stmt]
    have checked : accepted.check = .ok index := check_eq_ok_iff.mpr ⟨names, nodes, embedding⟩
    obtain ⟨generates, -, looksUp⟩ := units_of_check accepted
    obtain ⟨units, made, order⟩ := generates index checked
    have named : accepted.categories.map (fun category => (category.name, category.moduleName)) =
        [("Expr", "expr"), ("Stmt", "statement")] := by
      decide +kernel
    exact ⟨index, units, checked, made, order.trans named, looksUp index names⟩
  · have checked : refused.check = .error (.unknownField "CallExpr" "args") := by
      decide +kernel
    exact ⟨checked, (units_of_check refused).2.1 _ checked⟩

end Schema

end TreeSchema
