import TreeSchema.Proofs.Units.Closure
import TreeSchema.Proofs.Units.Emission

/-!
The first categories of a schema. They make a schema by themselves, and what is generated for them
does not depend on the categories after them, as nothing refers to a later category.
-/

namespace TreeSchema

open Relation Source

variable {schema : Schema} {index front : Index} {category : Category} {node : Node} {file : File}
  {type : FieldType} {types : List FieldType} {target : Target} {name : String} {c d k n : Nat}

/-- The schema with its first `k` categories only. -/
def Schema.take (schema : Schema) (k : Nat) : Schema :=
  { schema with categories := schema.categories.take k }

namespace Schema

/-! ### Rules -/

theorem getElem?_take_iff : (schema.take k).categories[c]? = some category ↔
    c < k ∧ schema.categories[c]? = some category := by
  rw [take, List.getElem?_take]
  split
  next before => simp [before]
  next after => simp [after]

theorem node?_take_iff : (schema.take k).node? c n = some node ↔
    c < k ∧ schema.node? c n = some node := by
  simp only [node?_eq_some_iff, getElem?_take_iff, and_assoc, exists_and_left]

theorem declares_take_iff : (schema.take k).Declares name target ↔
    target.category < k ∧ schema.Declares name target := by
  constructor
  · intro declared
    cases declared with
    | union found =>
      obtain ⟨before, found⟩ := getElem?_take_iff.mp found
      exact ⟨before, .union found⟩
    | record found inside =>
      obtain ⟨before, found⟩ := getElem?_take_iff.mp found
      exact ⟨before, .record found inside⟩
  · rintro ⟨before, declared⟩
    cases declared with
    | union found => exact .union (getElem?_take_iff.mpr ⟨before, found⟩)
    | record found inside => exact .record (getElem?_take_iff.mpr ⟨before, found⟩) inside

/-- What a category may refer to comes before it, so it is among the first if the category is. -/
theorem Reaches.take (reaches : schema.Reaches c name) (before : c < k) :
    (schema.take k).Reaches c name := by
  cases reaches with
  | union found upTo named =>
    exact .union (getElem?_take_iff.mpr ⟨by omega, found⟩) upTo named
  | record found upTo inside named member refers =>
    exact .record (getElem?_take_iff.mpr ⟨by omega, found⟩) upTo inside named member refers

theorem embeds_take_le : (schema.take k).Embeds ≤ schema.Embeds := by
  rintro holder held ⟨node, record, left, right, field⟩
  exact ⟨node, record, (node?_take_iff.mp left).2, (node?_take_iff.mp right).2, field⟩

theorem WellFormed.take (wellFormed : schema.WellFormed) (k : Nat) :
    (schema.take k).WellFormed where
  categories category member := wellFormed.categories category (List.mem_of_mem_take member)
  modules := wellFormed.modules.sublist ((List.take_sublist k schema.categories).map _)
  names := by
    have parts : schema.typeNames = (schema.take k).typeNames ++
        (schema.categories.drop k).flatMap fun category =>
          category.name :: category.nodes.map (·.name) := by
      rw [typeNames, typeNames, Schema.take, ← List.flatMap_append, List.take_append_drop]
    exact wellFormed.names.sublist (parts ▸ List.sublist_append_left _ _)
  targets c category found node member field inside name refers := by
    obtain ⟨before, found⟩ := getElem?_take_iff.mp found
    exact (wellFormed.targets c category found node member field inside name refers).take before
  renders category member := wellFormed.renders category (List.mem_of_mem_take member)
  acyclic position around := wellFormed.acyclic position
    (TransGen.mono embeds_take_le position position around)

/-! ### Names -/

/-- The names that an early category refers to stand for the same without the later ones. -/
theorem IsIndex.resolve_take (isIndex : schema.IsIndex index)
    (isFront : (schema.take k).IsIndex front) (wellFormed : schema.WellFormed) (before : c < k)
    (found : schema.categories[c]? = some category) (member : type ∈ category.fieldTypes)
    (refers : type.target? = some name) : front.resolve name = index.resolve name := by
  obtain ⟨target, resolved, upTo, -⟩ := wellFormed.exists_resolve isIndex found member refers
  rw [resolved, isFront, declares_take_iff]
  exact ⟨by omega, (isIndex name target).mp resolved⟩

end Schema

theorem namesFrom_congr (same : ∀ type ∈ types, ∀ name, type.target? = some name →
    front.resolve name = index.resolve name) :
    namesFrom front d types = namesFrom index d types := by
  rw [namesFrom_eq_foldl, namesFrom_eq_foldl]
  refine List.foldl_ext _ _ _ fun names type member => ?_
  unfold collectName
  cases refers : type.target? with
  | none => rfl
  | some name => simp only [same type member name refers]

namespace Schema

variable (isIndex : schema.IsIndex index) (isFront : (schema.take k).IsIndex front)
  (wellFormed : schema.WellFormed)
include isIndex isFront wellFormed

theorem names_take (before : c < k) (found : schema.categories[c]? = some category) :
    namesFrom front d category.fieldTypes = namesFrom index d category.fieldTypes :=
  namesFrom_congr fun _ member _ refers =>
    isIndex.resolve_take isFront wellFormed before found member refers

omit isFront in
/-- A unit imports from earlier ones only. -/
theorem siblings_eq_filter_take (before : c < k) (found : schema.categories[c]? = some category) :
    siblings schema index c category.fieldTypes = (schema.categories.zipIdx.take k).filter
      fun (_, d) => d ≠ c ∧ namesFrom index d category.fieldTypes ≠ [] := by
  rw [siblings]
  conv_lhs => rw [← List.take_append_drop k schema.categories.zipIdx, List.filter_append]
  rw [List.append_right_eq_self, List.filter_eq_nil_iff]
  rintro ⟨sibling, d⟩ later needed
  have member : (sibling, d) ∈ siblings schema index c category.fieldTypes :=
    List.mem_filter.mpr ⟨List.mem_of_mem_drop later, needed⟩
  have earlier := HasFiles.lt_of_mem_siblings isIndex wellFormed found member
  obtain ⟨i, inside, same⟩ := List.mem_drop_iff_getElem.mp later
  have place : k + i = d := by
    simpa using congrArg Prod.snd same
  omega

theorem siblings_take (before : c < k) (found : schema.categories[c]? = some category) :
    siblings (schema.take k) front c category.fieldTypes =
      siblings schema index c category.fieldTypes := by
  have numbered : (schema.take k).categories.zipIdx = schema.categories.zipIdx.take k := by
    refine List.ext_getElem? fun d => ?_
    simp only [Schema.take, List.getElem?_zipIdx, List.getElem?_take]
    split <;> rfl
  rw [siblings_eq_filter_take isIndex wellFormed before found, siblings, numbered]
  refine List.filter_congr ?_
  rintro ⟨sibling, d⟩ -
  dsimp only
  rw [names_take isIndex isFront wellFormed before found]

theorem imports_take (before : c < k) (found : schema.categories[c]? = some category) :
    imports (schema.take k) front c category.fieldTypes =
      imports schema index c category.fieldTypes := by
  unfold imports
  rw [siblingImports_eq_map, siblingImports_eq_map,
    siblings_take isIndex isFront wellFormed before found]
  simp only [names_take isIndex isFront wellFormed before found]
  rfl

theorem isOf_take (before : c < k) (found : schema.categories[c]? = some category)
    (isOf : file.IsOf schema index c category) : file.IsOf (schema.take k) front c category where
  union := isOf.union
  module := isOf.module
  arena := isOf.arena
  lexeme := isOf.lexeme
  imports := by
    rw [isOf.imports, imports_take isIndex isFront wellFormed before found]
  records := isOf.records

theorem files_take {files fewer : List File} (hasFiles : schema.HasFiles index files)
    (hasFewer : (schema.take k).HasFiles front fewer) : fewer = files.take k := by
  refine List.ext_getElem? fun c => ?_
  rw [List.getElem?_take]
  split
  next before =>
    cases found : schema.categories[c]? with
    | none =>
      have short := List.getElem?_eq_none_iff.mp found
      have fewerShort : fewer.length ≤ c := by
        rw [hasFewer.length, Schema.take, List.length_take]
        omega
      rw [List.getElem?_eq_none fewerShort, List.getElem?_eq_none (hasFiles.length ▸ short)]
    | some category =>
      obtain ⟨file, place, isOf⟩ := hasFiles.exists_file found
      obtain ⟨other, otherPlace, otherIsOf⟩ :=
        hasFewer.exists_file (getElem?_take_iff.mpr ⟨before, found⟩)
      have same := isOf_take isIndex isFront wellFormed before found isOf
      have made := Category.file?_eq_some_iff.mpr otherIsOf
      rw [Category.file?_eq_some_iff.mpr same] at made
      rw [place, otherPlace, Option.some.inj made]
  next after =>
    refine List.getElem?_eq_none ?_
    rw [hasFewer.length, Schema.take, List.length_take]
    omega

omit isIndex isFront wellFormed

/-- The first categories of a schema that passes the check pass it, and their units are those that
the whole schema has for them. -/
theorem units_take (checked : schema.check = .ok index) (k : Nat) :
    ∃ units, schema.units = .ok units ∧ (∃ front, (schema.take k).check = .ok front) ∧
      (schema.take k).units = .ok (units.take k) := by
  have wellFormed := wellFormed_of_check checked
  obtain ⟨front, checkedFront⟩ := (wellFormed.take k).exists_check
  obtain ⟨files, made, hasFiles⟩ := exists_files checked
  obtain ⟨fewer, madeFewer, hasFewer⟩ := exists_files checkedFront
  have same : fewer = files.take k :=
    files_take (isIndex_of_check checked) (isIndex_of_check checkedFront) wellFormed hasFiles
      hasFewer
  refine ⟨_, units_eq_ok_iff.mpr ⟨files, made, rfl⟩, ⟨front, checkedFront⟩, ?_⟩
  exact units_eq_ok_iff.mpr ⟨fewer, madeFewer, by rw [same, List.map_take]⟩

/-- The unit of a category is the same with and without another category that refers to it. -/
theorem units_take_one :
    let expr : Category := ⟨"Expr", none, [⟨"NumberExpr", "Number", [⟨"token", .token⟩],
      .template "{}" ["token"]⟩]⟩
    let stmt : Category := ⟨"Stmt", none, [⟨"ExprStmt", "Expr", [⟨"value", .node "Expr"⟩],
      .template "{};" ["value"]⟩]⟩
    let schema : Schema := ⟨{}, [expr, stmt]⟩
    ∃ index units front, schema.check = .ok index ∧ schema.units = .ok units ∧
      units.map (·.category) = ["Expr", "Stmt"] ∧ schema.take 1 = ⟨{}, [expr]⟩ ∧
      (schema.take 1).check = .ok front ∧ (schema.take 1).units = .ok (units.take 1) := by
  intro expr stmt schema
  let index : Index := ⟨[("ExprStmt", .record 1 0), ("Stmt", .union 1),
    ("NumberExpr", .record 0 0), ("Expr", .union 0)]⟩
  have names : checkNames schema.collaborators.reservedNames 0 ⟨[], .empty⟩ schema.categories =
      .ok index := by
    decide +kernel
  have nodes : checkNodes schema index 0 schema.categories = .ok () := by
    decide +kernel
  have embedding : schema.checkEmbedding index = .ok () := by
    have records : schema.records = [(0, 0), (1, 0)] := by decide
    have number : schema.embedded index (0, 0) = [] := by decide
    have statement : schema.embedded index (1, 0) = [] := by decide
    simp [checkEmbedding, Graph.cycle?, Graph.visitAll, Graph.visit, records, number, statement]
  have checked : schema.check = .ok index := check_eq_ok_iff.mpr ⟨names, nodes, embedding⟩
  obtain ⟨units, made, ⟨front, checkedFront⟩, first⟩ := units_take checked 1
  obtain ⟨files, madeFiles, hasFiles⟩ := exists_files checked
  obtain ⟨others, madeOthers, rfl⟩ := units_eq_ok_iff.mp made
  obtain rfl := Except.ok.inj (madeFiles.symm.trans madeOthers)
  have order := congrArg (List.map Prod.fst) hasFiles.map_unit
  refine ⟨index, _, front, checked, made, ?_, rfl, checkedFront, first⟩
  rw [List.map_map] at order
  exact order

end Schema

end TreeSchema
