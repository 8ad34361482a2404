import Mathlib.Data.List.Perm.Basic
import TreeSchema.Proofs.Units.Closure

/-!
The names in scope of a unit. What a unit declares and imports from other units are different names,
and none of them is the name of a collaborator. Nothing keeps the collaborators' own names apart.
-/

namespace TreeSchema

open Source

namespace Source

/-- The names that a line imports from another unit. -/
def Import.names : Import → List String
  | path _ => []
  | sibling _ _ names => names

/-- The simple names that a line brings into scope. -/
def Import.binds : Import → List String
  | path target => [simpleName target]
  | sibling _ _ names => names

/-- The names among them that are of no unit. -/
def Import.outside : Import → List String
  | path target => [simpleName target]
  | sibling _ _ _ => []

namespace File

/-- The names in scope of the unit: what its imports bring, its union and its records. -/
def boundNames (file : File) : List String :=
  simpleName "std::fmt" :: file.imports.flatMap Import.binds ++ file.declared.map (·.1)

/-- The names from outside of the schema: the formatting module and the collaborators. -/
def outsideNames (file : File) : List String :=
  simpleName "std::fmt" :: file.imports.flatMap Import.outside

/-- The names from the schema: those imported from other units, the union and the records. -/
def schemaNames (file : File) : List String :=
  file.imports.flatMap Import.names ++ file.declared.map (·.1)

theorem boundNames_perm (file : File) :
    file.boundNames.Perm (file.outsideNames ++ file.schemaNames) := by
  have each : Import.binds = fun line => line.outside ++ line.names := by
    funext line
    cases line <;> rfl
  have lines := List.flatMap_append_perm file.imports Import.outside Import.names
  rw [← each] at lines
  rw [boundNames, outsideNames, schemaNames, List.cons_append, List.cons_append,
    ← List.append_assoc]
  exact (lines.symm.append_right _).cons _

end File

/-- The names that a path brings into scope: those of a group at its end, or its last segment. -/
def namesOf (path : String) : List String :=
  (readGroup? (simpleName path).toList).getD [simpleName path]

/-- The names in scope of the unit, read from its lines. -/
def Page.boundNames (page : Page) : List String :=
  page.uses.flatMap namesOf ++ page.declared.map (·.1)

end Source

/-- The path ends with no group of names. -/
def EndsPlain (path : String) : Prop :=
  between? "\x7b" "\x7d" (simpleName path).toList = none

/-- The paths of the types that units depend on. -/
def Collaborators.paths (collaborators : Collaborators) : List String :=
  [collaborators.token, collaborators.atom, collaborators.arena, collaborators.sequence]

variable {schema : Schema} {index : Index} {category : Category} {file : File} {files : List File}
  {types : List FieldType} {name : String} {c : Nat}

/-! ### Names of the schema -/

namespace Schema

theorem Writes.of_mem_typeNames (member : name ∈ schema.typeNames) :
    schema.Writes .pascal schema.collaborators.reservedNames name := by
  obtain ⟨category, among, member⟩ := List.mem_flatMap.mp member
  rcases List.mem_cons.mp member with rfl | inside
  · exact .category among
  · obtain ⟨node, within, rfl⟩ := List.mem_map.mp inside
    exact .record among within

/-- Type names start with a capital, and the formatting module does not. -/
theorem WellFormed.ne_fmt (wellFormed : schema.WellFormed) (member : name ∈ schema.typeNames) :
    name ≠ simpleName "std::fmt" := by
  rintro rfl
  have written := (wellFormed.admits (Writes.of_mem_typeNames member)).written
  have other : NameStyle.pascal.accepts (simpleName "std::fmt") = false := by
    decide +kernel
  rw [other] at written
  cases written

end Schema

/-! ### Imports -/

/-- A unit imports collaborators and lines of siblings. -/
theorem mem_imports {line : Import} (member : line ∈ imports schema index c types) :
    (∃ path ∈ schema.collaborators.paths, line = .path path) ∨
    line ∈ siblingImports schema index c types := by
  simp only [imports, List.mem_append, List.mem_ite_nil_right, List.mem_singleton] at member
  rcases member with (((rfl | ⟨-, rfl⟩) | ⟨-, rfl⟩) | ⟨-, rfl⟩) | line
  · exact .inl ⟨_, by simp [Collaborators.paths], rfl⟩
  · exact .inl ⟨_, by simp [Collaborators.paths], rfl⟩
  · exact .inl ⟨_, by simp [Collaborators.paths], rfl⟩
  · exact .inl ⟨_, by simp [Collaborators.paths], rfl⟩
  · exact .inr line

theorem flatMap_names_imports (schema : Schema) (index : Index) (c : Nat) (types : List FieldType) :
    (imports schema index c types).flatMap Import.names =
      (siblings schema index c types).flatMap fun (_, d) => namesFrom index d types := by
  have paths (condition : Bool) (path : String) :
      (if condition then [Import.path path] else []).flatMap Import.names = [] := by
    cases condition <;> rfl
  rw [imports, List.flatMap_append, List.flatMap_append, List.flatMap_append, List.flatMap_append,
    paths, paths, paths, siblingImports_eq_map, List.flatMap_map]
  rfl

namespace Source.File.IsOf

variable (isOf : file.IsOf schema index c category)
include isOf

/-- Names from outside of the schema are reserved, the formatting module's apart. -/
theorem mem_outsideNames (member : name ∈ file.outsideNames) :
    name = simpleName "std::fmt" ∨ name ∈ schema.collaborators.reservedNames := by
  rcases List.mem_cons.mp member with rfl | member
  · exact .inl rfl
  · obtain ⟨line, among, brings⟩ := List.mem_flatMap.mp member
    rw [isOf.imports] at among
    rcases mem_imports among with ⟨path, collaborator, rfl⟩ | sibling
    · obtain rfl := List.mem_singleton.mp brings
      exact .inr (List.mem_append_left _ (List.mem_map.mpr ⟨path, collaborator, rfl⟩))
    · rw [siblingImports_eq_map] at sibling
      obtain ⟨entry, -, rfl⟩ := List.mem_map.mp sibling
      cases brings

theorem map_declared : file.declared.map (·.1) = category.typeNames := by
  have names : List.Forall₂ (· = ·) (category.nodes.map (·.name)) (file.records.map (·.name)) :=
    List.forall₂_map_left_iff.mpr (List.forall₂_map_right_iff.mpr
      (isOf.records.imp fun _ _ same => same.name.symm))
  rw [List.forall₂_eq_eq_eq] at names
  rw [File.declared, List.map_cons, List.map_map, isOf.union, Category.typeNames, names]
  rfl

theorem schemaNames_eq : file.schemaNames =
    ((siblings schema index c category.fieldTypes).flatMap fun (_, d) =>
      namesFrom index d category.fieldTypes) ++ category.typeNames := by
  rw [File.schemaNames, isOf.imports, flatMap_names_imports, isOf.map_declared]

end Source.File.IsOf

/-! ### Units -/

namespace Schema

/-- A name on the line of a category is declared there. -/
theorem category_of_mem_namesFrom {d : Nat} (member : name ∈ namesFrom index d types) :
    (index.resolve name).map (·.category) = some d := by
  obtain ⟨type, -, -, placed⟩ := mem_namesFrom_iff.mp member
  exact placed

theorem category_of_mem_declared (isIndex : schema.IsIndex index)
    (found : schema.categories[c]? = some category)
    (member : name ∈ category.typeNames) :
    (index.resolve name).map (·.category) = some c := by
  rw [isIndex.resolve_category_iff]
  rcases List.mem_cons.mp member with rfl | inside
  · exact ⟨.union c, .union found, rfl⟩
  · obtain ⟨node, within, rfl⟩ := List.mem_map.mp inside
    obtain ⟨n, place⟩ := List.mem_iff_getElem?.mp within
    exact ⟨.record c n, .record found place, rfl⟩

/-- Lines of different categories bring different names. -/
theorem nodup_siblingNames : ((siblings schema index c types).flatMap fun (_, d) =>
    namesFrom index d types).Nodup := by
  rw [List.nodup_flatMap]
  constructor
  · rintro ⟨sibling, d⟩ -
    exact pairwise_namesFrom.imp String.ne_of_lt
  · refine (List.pairwise_map.mp pairwise_siblings).imp ?_
    rintro ⟨first, d⟩ ⟨second, e⟩ before name inFirst inSecond
    have same := (category_of_mem_namesFrom inFirst).symm.trans (category_of_mem_namesFrom inSecond)
    exact Nat.ne_of_lt before (Option.some.inj same)

theorem nodup_schemaNames (unique : schema.typeNames.Nodup) (isIndex : schema.IsIndex index)
    (isOf : file.IsOf schema index c category) (found : schema.categories[c]? = some category) :
    file.schemaNames.Nodup := by
  rw [isOf.schemaNames_eq]
  refine List.Nodup.append nodup_siblingNames ?_ ?_
  · exact (List.nodup_flatMap.mp unique).1 category (List.mem_of_getElem? found)
  · intro name imported declared
    obtain ⟨⟨sibling, d⟩, among, inside⟩ := List.mem_flatMap.mp imported
    have there := category_of_mem_namesFrom inside
    rw [category_of_mem_declared isIndex found declared] at there
    exact (mem_siblings_iff.mp among).2.1 (Option.some.inj there).symm

theorem mem_typeNames_of_mem_schemaNames (isIndex : schema.IsIndex index)
    (isOf : file.IsOf schema index c category) (found : schema.categories[c]? = some category)
    (member : name ∈ file.schemaNames) : name ∈ schema.typeNames := by
  rw [isOf.schemaNames_eq] at member
  rcases List.mem_append.mp member with imported | declared
  · obtain ⟨⟨sibling, d⟩, -, inside⟩ := List.mem_flatMap.mp imported
    obtain ⟨target, known, -⟩ := isIndex.resolve_category_iff.mp (category_of_mem_namesFrom inside)
    exact mem_typeNames_iff.mpr ⟨target, known⟩
  · exact List.mem_flatMap.mpr ⟨category, List.mem_of_getElem? found, declared⟩

end Schema

/-! ### Names of lines -/

theorem namesOf_of_endsPlain {path : String} (plain : EndsPlain path) :
    namesOf path = [simpleName path] := by
  have single : readGroup? (simpleName path).toList =
      (name? (simpleName path).toList).map ([·]) := by
    rw [readGroup?, plain]
  rw [namesOf, single, name?]
  split
  next => rw [Option.map_some, Option.getD_some, String.ofList_toList]
  next => rfl

theorem namesOf_of_readImport? {path module : String} {names : List String}
    (read : readImport? path = some (module, names)) : namesOf path = names := by
  obtain ⟨front, -, read⟩ := Option.bind_eq_some_iff.mp read
  obtain ⟨group, known, same⟩ := Option.bind_eq_some_iff.mp read
  cases same
  rw [namesOf, known, Option.getD_some]

namespace Schema

/-- The names in scope are what the lines of the unit bring and declare, if no collaborator's path
ends with a group. -/
theorem boundNames_page (checked : schema.check = .ok index)
    (plain : ∀ path ∈ schema.collaborators.paths, EndsPlain path) :
    ∃ files, schema.files = .ok files ∧ schema.units = .ok (files.map (·.page.unit)) ∧
      ∀ file ∈ files, file.page.boundNames = file.boundNames := by
  obtain ⟨files, made, hasFiles⟩ := exists_files checked
  refine ⟨files, made, units_eq_ok_iff.mpr ⟨files, made, rfl⟩, fun file among => ?_⟩
  have wellFormed := wellFormed_of_check checked
  have isIndex := isIndex_of_check checked
  obtain ⟨c, place⟩ := List.mem_iff_getElem?.mp among
  obtain ⟨category, found, isOf⟩ := hasFiles.exists_category place
  have legible := wellFormed.legible isOf found
  have each : ∀ line ∈ file.imports, namesOf line.target = line.binds := by
    intro line member
    rw [isOf.imports] at member
    rcases mem_imports member with ⟨path, collaborator, rfl⟩ | sibling
    · exact namesOf_of_endsPlain (plain path collaborator)
    · rw [siblingImports_eq_map] at sibling
      obtain ⟨entry, inside, rfl⟩ := List.mem_map.mp sibling
      exact namesOf_of_readImport?
        (HasFiles.readImport?_siblingPath isIndex wellFormed inside)
  have first : namesOf "std::fmt" = [simpleName "std::fmt"] := by
    decide +kernel
  rw [Page.boundNames, legible.uses_page, legible.declared_page, List.flatMap_cons, first,
    List.flatMap_map, List.flatMap_congr each]
  rfl

/-- In each unit of a schema that passes the check the names from the schema are different, and
different from those from outside. So a name is bound twice only if those from outside clash. -/
theorem files_boundNames (checked : schema.check = .ok index) :
    ∃ files, schema.files = .ok files ∧ schema.units = .ok (files.map (·.unit)) ∧
      ∀ file ∈ files, file.schemaNames.Nodup ∧
        (∀ name ∈ file.schemaNames, name ∉ file.outsideNames) ∧
        (file.boundNames.Nodup ↔ file.outsideNames.Nodup) := by
  obtain ⟨files, made, hasFiles⟩ := exists_files checked
  refine ⟨files, made, units_eq_ok_iff.mpr ⟨files, made, rfl⟩, fun file among => ?_⟩
  have wellFormed := wellFormed_of_check checked
  have isIndex := isIndex_of_check checked
  obtain ⟨c, place⟩ := List.mem_iff_getElem?.mp among
  obtain ⟨category, found, isOf⟩ := hasFiles.exists_category place
  have once := nodup_schemaNames wellFormed.names isIndex isOf found
  have apart : ∀ name ∈ file.schemaNames, name ∉ file.outsideNames := by
    intro name member outside
    have named := mem_typeNames_of_mem_schemaNames isIndex isOf found member
    rcases isOf.mem_outsideNames outside with same | reserved
    · exact wellFormed.ne_fmt named same
    · exact (wellFormed.admits (Writes.of_mem_typeNames named)).free reserved
  refine ⟨once, apart, ?_⟩
  rw [file.boundNames_perm.nodup_iff, List.nodup_append']
  constructor
  · exact And.left
  · intro outside
    exact ⟨outside, once, fun name fromOutside member => apart name member fromOutside⟩

/-- All collaborators are imported, and names of another unit. -/
theorem files_boundNames_of_two :
    let expr : Category := ⟨"Expr", none,
      [⟨"GroupExpr", "Group", [⟨"inner", .node "Expr"⟩], .template "({})" ["inner"]⟩]⟩
    let stmt : Category := ⟨"Stmt", none, [⟨"CallStmt", "Call",
      [⟨"token", .token⟩, ⟨"name", .primitive .atom⟩, ⟨"args", .sequence "GroupExpr"⟩,
        ⟨"result", .optionalNode "Expr"⟩],
      .custom [.field "name", .forEach "args" [.item] ", "]⟩]⟩
    let schema : Schema := ⟨{}, [expr, stmt]⟩
    ∃ index files file, schema.check = .ok index ∧ schema.files = .ok files ∧ file ∈ files ∧
      file.boundNames = ["fmt", "Bump", "Token", "StringAtom", "Vec", "Expr", "GroupExpr", "Stmt",
        "CallStmt"] ∧ file.boundNames.Nodup := by
  intro expr stmt schema
  let index : Index := ⟨[("CallStmt", .record 1 0), ("Stmt", .union 1), ("GroupExpr", .record 0 0),
    ("Expr", .union 0)]⟩
  have checked : schema.check = .ok index :=
    check_eq_ok_of_flat (by decide +kernel) (by decide +kernel) (by decide +kernel)
  obtain ⟨files, made, hasFiles⟩ := exists_files checked
  obtain ⟨others, madeToo, -, distinct⟩ := files_boundNames checked
  obtain rfl := Except.ok.inj (made.symm.trans madeToo)
  have found : schema.categories[1]? = some stmt := rfl
  obtain ⟨file, place, isOf⟩ := hasFiles.exists_file found
  have among := List.mem_of_getElem? place
  have outside : file.outsideNames = ["fmt", "Bump", "Token", "StringAtom", "Vec"] := by
    rw [File.outsideNames, isOf.imports]
    decide +kernel
  refine ⟨index, files, file, checked, made, among, ?_, ?_⟩
  · rw [File.boundNames, isOf.imports, isOf.map_declared]
    decide +kernel
  · rw [(distinct file among).2.2, outside]
    decide

/-- Nothing keeps two collaborators from having one simple name, and a unit that needs both of them
imports the name twice. -/
theorem boundNames_clash :
    let schema : Schema := ⟨{ token := "crate::token::Name", atom := "crate::intern::Name" },
      [⟨"Expr", none, [⟨"VarExpr", "Var", [⟨"token", .token⟩, ⟨"name", .primitive .atom⟩],
        .template "{}" ["name"]⟩]⟩]⟩
    ∃ index files file, schema.check = .ok index ∧ schema.files = .ok files ∧ file ∈ files ∧
      ¬file.boundNames.Nodup := by
  intro schema
  let index : Index := ⟨[("VarExpr", .record 0 0), ("Expr", .union 0)]⟩
  have checked : schema.check = .ok index :=
    check_eq_ok_of_flat (by decide +kernel) (by decide +kernel) (by decide +kernel)
  obtain ⟨files, made, hasFiles⟩ := exists_files checked
  obtain ⟨file, place, isOf⟩ := hasFiles.exists_file (d := 0) rfl
  have bound : file.boundNames = ["fmt", "Bump", "Name", "Name", "Expr", "VarExpr"] := by
    rw [File.boundNames, isOf.imports, isOf.map_declared]
    decide +kernel
  refine ⟨index, files, file, checked, made, List.mem_of_getElem? place, ?_⟩
  rw [bound]
  decide

end Schema

end TreeSchema
