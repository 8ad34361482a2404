import Mathlib.Data.List.Nodup
import TreeSchema.Proofs.Schema.WellFormed
import TreeSchema.Proofs.Steps

/-!
The check of names. It accepts what the rules admit, and the index it leaves has every name of the
schema with what it stands for.
-/

namespace TreeSchema

variable {name category : String} {taken reserved seen tags : List String} {target : Target}
  {index after : Index} {style : NameStyle} {node : Node} {nodes : List Node} {c n : Nat}

theorem NameStyle.check_eq_ok_iff : style.check taken name = .ok () ↔ style.Admits taken name := by
  unfold NameStyle.check
  split
  next refused =>
    refine ⟨nofun, fun h => ?_⟩
    simp [h.written] at refused
  next accepted =>
    have written : style.accepts name = true := by simpa using accepted
    split
    next clash => exact ⟨nofun, fun h => absurd clash (not_or.mpr ⟨h.noKeyword, h.free⟩)⟩
    next clear =>
      obtain ⟨noKeyword, free⟩ := not_or.mp clear
      exact ⟨fun _ => ⟨written, noKeyword, free⟩, fun _ => rfl⟩

theorem NameStyle.pascalCaseChars_of_accepts (written : NameStyle.pascal.accepts name = true) :
    Text.pascalCaseChars name.toList = name.toList := by
  simp only [NameStyle.accepts, Bool.and_eq_true, beq_iff_eq] at written
  conv => rhs; rw [← written.2, Text.pascalCase, String.toList_ofList]

theorem NameStyle.snakeCaseChars_of_accepts (written : NameStyle.snake.accepts name = true) :
    Text.snakeCaseChars name.toList = name.toList := by
  simp only [NameStyle.accepts, Bool.and_eq_true, beq_iff_eq] at written
  conv => rhs; rw [← written.2, Text.snakeCase, String.toList_ofList]

theorem nodup_reverse_cons_append {α : Type} {a : α} {list seen : List α} :
    ((a :: list).reverse ++ seen).Nodup ↔ a ∉ seen ∧ (list.reverse ++ a :: seen).Nodup := by
  rw [List.reverse_cons, List.append_assoc, List.singleton_append]
  refine ⟨fun h => ⟨?_, h⟩, And.right⟩
  exact (List.nodup_cons.mp (h.sublist (List.sublist_append_right _ _))).1

theorem checkFieldNames_eq_ok_iff (owner : String) (fields : List Field) (distinct : seen.Nodup) :
    checkFieldNames owner seen fields = .ok () ↔
      (∀ field ∈ fields, NameStyle.snake.Admits [arenaParameter] field.name) ∧
      ((fields.map (·.name)).reverse ++ seen).Nodup := by
  induction fields generalizing seen with
  | nil => simpa [checkFieldNames] using distinct
  | cons field rest ih =>
    rw [checkFieldNames, seq_eq_ok_iff, seq_eq_ok_iff, NameStyle.check_eq_ok_iff,
      require_eq_ok_iff, decide_eq_true_iff, List.map_cons, nodup_reverse_cons_append,
      List.forall_mem_cons]
    have later (fresh : field.name ∉ seen) := ih (List.nodup_cons.mpr ⟨fresh, distinct⟩)
    constructor
    · rintro ⟨admitted, fresh, checked⟩
      obtain ⟨others, once⟩ := (later fresh).mp checked
      exact ⟨⟨admitted, others⟩, fresh, once⟩
    · rintro ⟨⟨admitted, others⟩, fresh, once⟩
      exact ⟨admitted, fresh, (later fresh).mpr ⟨others, once⟩⟩

/-! ### The index -/

namespace Index

/-- No name stands for two things. -/
def Distinct (index : Index) : Prop :=
  (index.entries.map (·.1)).Nodup

theorem resolve_eq_some_iff (distinct : index.Distinct) :
    index.resolve name = some target ↔ (name, target) ∈ index.entries := by
  obtain ⟨entries⟩ := index
  unfold resolve
  induction entries with
  | nil => simp
  | cons entry rest ih =>
    obtain ⟨other, meaning⟩ := entry
    obtain ⟨fresh, distinct⟩ := List.nodup_cons.mp distinct
    by_cases same : name = other
    · subst same
      have absent : (name, target) ∉ rest := fun member =>
        fresh (List.mem_map.mpr ⟨_, member, rfl⟩)
      simp [absent, eq_comm]
    · have different : (name == other) = false := by simpa using same
      simpa [List.lookup_cons, different, same] using ih distinct

theorem resolve_eq_none_iff : index.resolve name = none ↔ name ∉ index.entries.map (·.1) := by
  rw [resolve, List.lookup_eq_none_iff, List.mem_map, not_exists]
  refine forall_congr' fun entry => ?_
  rw [not_and, bne_iff_ne, ne_comm]

theorem checkInsert_eq_ok_iff :
    index.checkInsert name target = .ok after ↔
      name ∉ index.entries.map (·.1) ∧ ⟨(name, target) :: index.entries⟩ = after := by
  unfold checkInsert insert?
  rw [← resolve_eq_none_iff]
  cases index.resolve name with
  | none => simp
  | some other => exact ⟨nofun, fun ⟨impossible, _⟩ => nomatch impossible⟩

end Index

/-! ### Nodes and categories -/

/-- What the names of the nodes stand for, from position `n` on. -/
def declaredNodes (c n : Nat) (nodes : List Node) : List (String × Target) :=
  (nodes.zipIdx n).map fun (node, n) => (node.name, .record c n)

/-- What the names of the categories and their nodes stand for, from position `c` on. -/
def declaredCategories (c : Nat) (categories : List Category) : List (String × Target) :=
  (categories.zipIdx c).flatMap fun (category, c) =>
    (category.name, .union c) :: declaredNodes c 0 category.nodes

theorem checkNodeNames_cons_eq_ok_iff :
    checkNodeNames reserved category c n tags index (node :: nodes) = .ok after ↔
      node.WellNamed reserved ∧ node.tag ∉ tags ∧ node.name ∉ index.entries.map (·.1) ∧
      checkNodeNames reserved category c (n + 1) (node.tag :: tags)
        ⟨(node.name, .record c n) :: index.entries⟩ nodes = .ok after := by
  rw [checkNodeNames, seq_eq_ok_iff, seq_eq_ok_iff, seq_eq_ok_iff, bind_eq_ok_iff,
    NameStyle.check_eq_ok_iff, NameStyle.check_eq_ok_iff, require_eq_ok_iff, decide_eq_true_iff]
  have fields := checkFieldNames_eq_ok_iff node.name node.fields List.nodup_nil
  rw [List.append_nil, List.nodup_reverse] at fields
  constructor
  · rintro ⟨name, tag, fresh, middle, inserted, more⟩
    obtain ⟨unknown, rfl⟩ := Index.checkInsert_eq_ok_iff.mp inserted
    obtain ⟨checked, more⟩ := seq_eq_ok_iff.mp more
    obtain ⟨written, distinct⟩ := fields.mp checked
    exact ⟨⟨name, tag, written, distinct⟩, fresh, unknown, more⟩
  · rintro ⟨⟨name, tag, written, distinct⟩, fresh, unknown, more⟩
    exact ⟨name, tag, fresh, _, Index.checkInsert_eq_ok_iff.mpr ⟨unknown, rfl⟩,
      seq_eq_ok_iff.mpr ⟨fields.mpr ⟨written, distinct⟩, more⟩⟩

theorem Index.Distinct.cons (distinct : index.Distinct) (fresh : name ∉ index.entries.map (·.1)) :
    Distinct ⟨(name, target) :: index.entries⟩ :=
  List.nodup_cons.mpr ⟨fresh, distinct⟩

theorem Index.Distinct.append_right {front back : List (String × Target)}
    (distinct : Distinct ⟨front ++ back⟩) : Distinct ⟨back⟩ := by
  unfold Distinct at distinct
  rw [List.map_append] at distinct
  exact distinct.sublist (List.sublist_append_right _ _)

theorem Index.Distinct.fresh {front back : List (String × Target)}
    (distinct : Distinct ⟨front ++ (name, target) :: back⟩) : name ∉ back.map (·.1) := by
  exact (List.nodup_cons.mp distinct.append_right).1

theorem checkNodeNames_eq_ok_iff (distinct : index.Distinct) (once : tags.Nodup) :
    checkNodeNames reserved category c n tags index nodes = .ok after ↔
      (∀ node ∈ nodes, node.WellNamed reserved) ∧
      ((nodes.map (·.tag)).reverse ++ tags).Nodup ∧
      ⟨(declaredNodes c n nodes).reverse ++ index.entries⟩ = after ∧ after.Distinct := by
  induction nodes generalizing n tags index with
  | nil =>
    rw [checkNodeNames]
    constructor
    · rintro ⟨⟩
      exact ⟨by simp, by simpa using once, rfl, distinct⟩
    · rintro ⟨-, -, rfl, -⟩
      rfl
  | cons node rest ih =>
    rw [checkNodeNames_cons_eq_ok_iff, List.forall_mem_cons, List.map_cons,
      nodup_reverse_cons_append]
    have entries : (declaredNodes c n (node :: rest)).reverse ++ index.entries =
        (declaredNodes c (n + 1) rest).reverse ++ (node.name, .record c n) :: index.entries := by
      simp [declaredNodes]
    rw [entries]
    constructor
    · rintro ⟨named, fresh, unknown, more⟩
      obtain ⟨others, tagged, made, result⟩ :=
        (ih (distinct.cons unknown) (List.nodup_cons.mpr ⟨fresh, once⟩)).mp more
      exact ⟨⟨named, others⟩, ⟨fresh, tagged⟩, made, result⟩
    · rintro ⟨⟨named, others⟩, ⟨fresh, tagged⟩, rfl, result⟩
      have unknown := result.fresh
      exact ⟨named, fresh, unknown,
        (ih (distinct.cons unknown) (List.nodup_cons.mpr ⟨fresh, once⟩)).mpr
          ⟨others, tagged, rfl, result⟩⟩

theorem checkNames_cons_eq_ok_iff {names : Names} {category : Category}
    {categories : List Category} (distinct : names.index.Distinct) :
    checkNames reserved c names (category :: categories) = .ok after ↔
      category.WellNamed reserved ∧ category.moduleName ∉ names.modules ∧
      let index : Index := ⟨(declaredCategories c [category]).reverse ++ names.index.entries⟩
      index.Distinct ∧
      checkNames reserved (c + 1) ⟨category.moduleName :: names.modules, index⟩ categories =
        .ok after := by
  rw [checkNames, seq_eq_ok_iff, seq_eq_ok_iff, seq_eq_ok_iff, seq_eq_ok_iff, bind_eq_ok_iff,
    NameStyle.check_eq_ok_iff, NameStyle.check_eq_ok_iff, require_eq_ok_iff, require_eq_ok_iff,
    decide_eq_true_iff]
  have entries : (declaredCategories c [category]).reverse ++ names.index.entries =
      (declaredNodes c 0 category.nodes).reverse ++
        (category.name, .union c) :: names.index.entries := by
    simp [declaredCategories]
  rw [entries]
  have nodes {middle after : Index} (distinct : middle.Distinct) :
      checkNodeNames reserved category.name c 0 [] middle category.nodes = .ok after ↔
        (∀ node ∈ category.nodes, node.WellNamed reserved) ∧
        (category.nodes.map (·.tag)).Nodup ∧
        ⟨(declaredNodes c 0 category.nodes).reverse ++ middle.entries⟩ = after ∧
        after.Distinct := by
    rw [checkNodeNames_eq_ok_iff distinct List.nodup_nil, List.append_nil, List.nodup_reverse]
  constructor
  · rintro ⟨name, module, fresh, nonempty, middle, inserted, more⟩
    obtain ⟨unknown, rfl⟩ := Index.checkInsert_eq_ok_iff.mp inserted
    obtain ⟨last, checked, more⟩ := bind_eq_ok_iff.mp more
    obtain ⟨named, tags, rfl, result⟩ := (nodes (distinct.cons unknown)).mp checked
    exact ⟨⟨name, module, by simpa using nonempty, named, tags⟩, fresh, result, more⟩
  · rintro ⟨⟨name, module, nonempty, named, tags⟩, fresh, result, more⟩
    have unknown := result.fresh
    refine ⟨name, module, fresh, by simpa using nonempty, _,
      Index.checkInsert_eq_ok_iff.mpr ⟨unknown, rfl⟩, ?_⟩
    exact bind_eq_ok_iff.mpr
      ⟨_, (nodes (distinct.cons unknown)).mpr ⟨named, tags, rfl, result⟩, more⟩

theorem checkNames_eq_ok_iff (names : Names) {categories : List Category}
    (distinct : names.index.Distinct) (once : names.modules.Nodup) :
    checkNames reserved c names categories = .ok after ↔
      (∀ category ∈ categories, category.WellNamed reserved) ∧
      ((categories.map (·.moduleName)).reverse ++ names.modules).Nodup ∧
      ⟨(declaredCategories c categories).reverse ++ names.index.entries⟩ = after ∧
      after.Distinct := by
  induction categories generalizing c names with
  | nil =>
    rw [checkNames]
    constructor
    · rintro ⟨⟩
      exact ⟨by simp, by simpa using once, rfl, distinct⟩
    · rintro ⟨-, -, rfl, -⟩
      rfl
  | cons category rest ih =>
    rw [checkNames_cons_eq_ok_iff distinct, List.forall_mem_cons, List.map_cons,
      nodup_reverse_cons_append]
    have entries : (declaredCategories c (category :: rest)).reverse ++ names.index.entries =
        (declaredCategories (c + 1) rest).reverse ++
          ((declaredCategories c [category]).reverse ++ names.index.entries) := by
      simp [declaredCategories]
    rw [entries]
    constructor
    · rintro ⟨named, fresh, partly, more⟩
      obtain ⟨others, modules, made, result⟩ :=
        (ih _ partly (List.nodup_cons.mpr ⟨fresh, once⟩)).mp more
      exact ⟨⟨named, others⟩, ⟨fresh, modules⟩, made, result⟩
    · rintro ⟨⟨named, others⟩, ⟨fresh, modules⟩, rfl, result⟩
      have partly := result.append_right
      exact ⟨named, fresh, partly,
        (ih _ partly (List.nodup_cons.mpr ⟨fresh, once⟩)).mpr ⟨others, modules, rfl, result⟩⟩

/-! ### The whole schema -/

/-- The names of the category and its nodes. -/
def Category.typeNames (category : Category) : List String :=
  category.name :: category.nodes.map (·.name)

namespace Schema

variable {schema : Schema}

theorem typeNames_eq : schema.typeNames = schema.categories.flatMap Category.typeNames :=
  rfl

theorem map_declaredNodes (nodes : List Node) :
    (declaredNodes c n nodes).map (·.1) = nodes.map (·.name) := by
  induction nodes generalizing n with
  | nil => rfl
  | cons node rest ih => exact congrArg (node.name :: ·) ih

theorem map_declaredCategories (categories : List Category) :
    (declaredCategories c categories).map (·.1) =
      categories.flatMap fun category => category.name :: category.nodes.map (·.name) := by
  induction categories generalizing c with
  | nil => rfl
  | cons category rest ih =>
    have parts : declaredCategories c (category :: rest) =
        (category.name, .union c) :: declaredNodes c 0 category.nodes ++
          declaredCategories (c + 1) rest := rfl
    rw [parts, List.map_append, ih, List.map_cons, map_declaredNodes, List.flatMap_cons]

theorem mem_declaredNodes_iff :
    (name, target) ∈ declaredNodes c 0 nodes ↔
      ∃ n node, nodes[n]? = some node ∧ node.name = name ∧ target = .record c n := by
  rw [declaredNodes, List.mem_map]
  constructor
  · rintro ⟨⟨node, n⟩, member, same⟩
    obtain ⟨rfl, rfl⟩ := Prod.mk.inj same
    exact ⟨n, node, List.mem_zipIdx_iff_getElem?.mp member, rfl, rfl⟩
  · rintro ⟨n, node, found, rfl, rfl⟩
    exact ⟨(node, n), List.mem_zipIdx_iff_getElem?.mpr found, rfl⟩

theorem mem_declaredCategories_iff :
    (name, target) ∈ declaredCategories 0 schema.categories ↔ schema.Declares name target := by
  rw [declaredCategories, List.mem_flatMap]
  constructor
  · rintro ⟨⟨category, c⟩, member, declared⟩
    have found := List.mem_zipIdx_iff_getElem?.mp member
    rcases List.mem_cons.mp declared with same | inside
    · obtain ⟨rfl, rfl⟩ := Prod.mk.inj same
      exact .union found
    · obtain ⟨n, node, place, rfl, rfl⟩ := mem_declaredNodes_iff.mp inside
      exact Declares.record found place
  · intro declared
    cases declared with
    | @union c category found =>
      exact ⟨(category, c), List.mem_zipIdx_iff_getElem?.mpr found, List.mem_cons_self⟩
    | @record c n category node found inside =>
      exact ⟨(category, c), List.mem_zipIdx_iff_getElem?.mpr found,
        List.mem_cons_of_mem _ (mem_declaredNodes_iff.mpr ⟨n, node, inside, rfl, rfl⟩)⟩

theorem mem_typeNames_iff : name ∈ schema.typeNames ↔ ∃ target, schema.Declares name target := by
  simp only [← mem_declaredCategories_iff]
  rw [typeNames, ← map_declaredCategories (c := 0), List.mem_map]
  constructor
  · rintro ⟨⟨_, target⟩, declared, rfl⟩
    exact ⟨target, declared⟩
  · rintro ⟨target, declared⟩
    exact ⟨(name, target), declared, rfl⟩

/-- The index knows what the names of the schema stand for, and no others. -/
def IsIndex (schema : Schema) (index : Index) : Prop :=
  ∀ name target, index.resolve name = some target ↔ schema.Declares name target

/-- The index that reading the names of the schema leaves. -/
def nameIndex (schema : Schema) : Index :=
  ⟨(declaredCategories 0 schema.categories).reverse⟩

theorem distinct_nameIndex_iff : schema.nameIndex.Distinct ↔ schema.typeNames.Nodup := by
  rw [Index.Distinct, nameIndex, List.map_reverse, List.nodup_reverse, map_declaredCategories,
    typeNames]

theorem isIndex_nameIndex (unique : schema.typeNames.Nodup) : schema.IsIndex schema.nameIndex := by
  intro name target
  rw [Index.resolve_eq_some_iff (distinct_nameIndex_iff.mpr unique), ← mem_declaredCategories_iff]
  exact List.mem_reverse

/-- Names are accepted if and only if each is fine by itself and none is used twice. -/
theorem checkNames_eq_ok_iff_nameIndex :
    checkNames reserved 0 ⟨[], .empty⟩ schema.categories = .ok index ↔
      (∀ category ∈ schema.categories, category.WellNamed reserved) ∧
      (schema.categories.map (·.moduleName)).Nodup ∧ schema.typeNames.Nodup ∧
      schema.nameIndex = index := by
  have whole : Index.mk ((declaredCategories 0 schema.categories).reverse ++ Index.empty.entries) =
      schema.nameIndex := by
    rw [Index.empty, List.append_nil, nameIndex]
  rw [checkNames_eq_ok_iff ⟨[], .empty⟩ List.nodup_nil List.nodup_nil, List.append_nil,
    List.nodup_reverse, whole]
  refine and_congr_right fun _ => and_congr_right fun _ => ?_
  constructor
  · rintro ⟨rfl, distinct⟩
    exact ⟨distinct_nameIndex_iff.mp distinct, rfl⟩
  · rintro ⟨unique, rfl⟩
    exact ⟨rfl, distinct_nameIndex_iff.mpr unique⟩

theorem isIndex_of_checkNames
    (checked : checkNames reserved 0 ⟨[], .empty⟩ schema.categories = .ok index) :
    schema.IsIndex index := by
  obtain ⟨-, -, unique, rfl⟩ := checkNames_eq_ok_iff_nameIndex.mp checked
  exact isIndex_nameIndex unique

theorem exists_checkNames_eq_ok_iff :
    (∃ index, checkNames reserved 0 ⟨[], .empty⟩ schema.categories = .ok index) ↔
      (∀ category ∈ schema.categories, category.WellNamed reserved) ∧
      (schema.categories.map (·.moduleName)).Nodup ∧ schema.typeNames.Nodup := by
  simp only [checkNames_eq_ok_iff_nameIndex]
  constructor
  · rintro ⟨index, named, modules, unique, -⟩
    exact ⟨named, modules, unique⟩
  · rintro ⟨named, modules, unique⟩
    exact ⟨schema.nameIndex, named, modules, unique, rfl⟩

end Schema

end TreeSchema
