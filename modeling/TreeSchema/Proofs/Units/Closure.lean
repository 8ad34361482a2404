import TreeSchema.Proofs.Units.Emission
import TreeSchema.Proofs.Units.Uses

/-!
Units know the types they name. What a field refers to is declared in the same unit or imported from
the unit of an earlier category, nothing else is imported, and what is mentioned with the arena's
lifetime is declared with it.
-/

namespace TreeSchema

open Source

/-- The type of a field, as the language writes it. Only what a field refers to stands in it as a
name with the lifetime. -/
def FieldType.spelling (collaborators : Collaborators) : FieldType → String
  | token => simpleName collaborators.token
  | optionalToken => "Option<" ++ simpleName collaborators.token ++ ">"
  | primitive .f64 => "f64"
  | primitive .i64 => "i64"
  | primitive .bool => "bool"
  | primitive .atom => simpleName collaborators.atom
  | node target => target ++ "<'a>"
  | optionalNode target => "Option<" ++ (target ++ "<'a>") ++ ">"
  | sequence target => simpleName collaborators.sequence ++ "<'a, " ++ (target ++ "<'a>") ++ ">"

theorem FieldType.text_typeExpr (type : FieldType) (collaborators : Collaborators) :
    (type.typeExpr collaborators).text = type.spelling collaborators := by
  cases type with
  | primitive kind => cases kind <;> rfl
  | token | optionalToken | node | optionalNode | sequence => rfl

namespace Source

def UnitLine.path? : UnitLine → Option String
  | use path => some path
  | head .. | field .. => none

/-- The name in a head of the kind, and whether it has the lifetime. -/
def UnitLine.head? (wanted : HeadKind) : UnitLine → Option (String × Bool)
  | head kind name lifetime => if kind = wanted then some (name, lifetime) else none
  | use _ | field .. => none

def UnitLine.field? : UnitLine → Option (String × String)
  | field name type => some (name, type)
  | use _ | head .. => none

/-- A unit with the lines of its source. -/
structure Page where
  unit : SourceUnit
  lines : List String
  source : unit.source = String.join (lines.map (· ++ "\n"))

namespace Page

/-- The paths that the unit uses. -/
def uses (page : Page) : List String :=
  (readUnit page.lines).filterMap UnitLine.path?

def heads (page : Page) (kind : HeadKind) : List (String × Bool) :=
  (readUnit page.lines).filterMap (UnitLine.head? kind)

/-- The fields of the unit's records, with their types. -/
def fields (page : Page) : List (String × String) :=
  (readUnit page.lines).filterMap UnitLine.field?

/-- The types that the unit declares, and whether with the lifetime. -/
def declared (page : Page) : List (String × Bool) :=
  page.heads .union ++ page.heads .record

end Page

/-- Unit number `d` declares the name and no other does. -/
def DeclaredBy (pages : List Page) (d : Nat) (name : String) : Prop :=
  ∀ e other, pages[e]? = some other → (name ∈ other.declared.map (·.1) ↔ e = d)

/-- The path is used if it is needed and nothing is used otherwise. -/
def UsedIf (needed : Prop) (path : String) (paths : List String) : Prop :=
  (needed ∧ paths = [path]) ∨ (¬needed ∧ paths = [])

/-- Whether the path imports the name from another unit. -/
def importsName (name path : String) : Bool :=
  (readImport? path).any fun read => name ∈ read.2

/-- The path imports from unit number `d` what the types use of it. -/
def ImportsFrom (pages : List Page) (scope : String) (types : List FieldType) (d : Nat)
    (path : String) : Prop :=
  ∃ other names, pages[d]? = some other ∧
    readImport? path = some (scope ++ "::" ++ other.unit.module, names) ∧ names ≠ [] ∧
    names.Pairwise (· < ·) ∧
    ∀ name, name ∈ names ↔
      name ∈ other.declared.map (·.1) ∧ ∃ type ∈ types, type.target? = some name

end Source

/-- The name of a node's record, and whether something in the record stands with the lifetime. -/
def Node.head (node : Node) : String × Bool :=
  (node.name, node.fields.any (·.type.target?.isSome))

/-- Unit number `c`, which imports the siblings, is closed under names. -/
structure Source.Page.NameClosed (page : Page) (pages : List Page) (c : Nat)
    (collaborators : Collaborators) (category : Category) (siblings : List String) : Prop where
  unit : page.unit.category = category.name ∧ page.unit.module = category.moduleName
  /-- The types of all fields are spelled as they should be. -/
  fields : page.fields = category.nodes.flatMap fun node => node.fields.map fun field =>
    (field.name, field.type.spelling collaborators)
  /-- What a field refers to is declared by one unit, with the lifetime. This is the same unit, or
  it is an earlier one and one path imports the name from there. -/
  resolved : ∀ type ∈ category.fieldTypes, ∀ name, type.target? = some name →
    ∃ d other, pages[d]? = some other ∧ DeclaredBy pages d name ∧ (name, true) ∈ other.declared ∧
      ((d = c ∧ siblings.filter (importsName name) = []) ∨
        (d < c ∧ ∃ path names, siblings.filter (importsName name) = [path] ∧
          readImport? path =
            some (collaborators.siblingPrefix ++ "::" ++ other.unit.module, names)))
  /-- Collaborators are used where they are needed. -/
  uses : ∃ tokens atoms sequences,
    page.uses = "std::fmt" :: collaborators.arena :: (tokens ++ atoms ++ sequences ++ siblings) ∧
    UsedIf (.token ∈ category.fieldTypes ∨ .optionalToken ∈ category.fieldTypes)
      collaborators.token tokens ∧
    UsedIf (.primitive .atom ∈ category.fieldTypes) collaborators.atom atoms ∧
    UsedIf (∃ target, .sequence target ∈ category.fieldTypes) collaborators.sequence sequences
  /-- From every other unit that a field refers to one path imports, in the order of the units. -/
  siblings : ∃ ds : List Nat, ds.Pairwise (· < ·) ∧ (∀ d ∈ ds, d < c) ∧
    List.Forall₂ (ImportsFrom pages collaborators.siblingPrefix category.fieldTypes) ds siblings
  /-- The union is written with the lifetime, and a record wherever it is if something in it is. -/
  union : page.heads .union = [(category.name, true)]
  records : ∀ kind ∈ [HeadKind.variant, .record, .constructors],
    page.heads kind = category.nodes.map Node.head
  displays : page.heads .display = (category.name, true) :: category.nodes.map Node.head

variable {schema : Schema} {index : Index} {category : Category} {file : File} {files : List File}
  {types : List FieldType} {type : FieldType} {target : Target} {path name : String} {c : Nat}

/-! ### Collaborators -/

theorem Source.usedIf_ite {needed : Prop} {test : Bool} (same : test = true ↔ needed) :
    UsedIf needed path (if test then [path] else []) := by
  by_cases holds : needed
  · exact .inl ⟨holds, if_pos (same.mpr holds)⟩
  · exact .inr ⟨holds, if_neg fun h => holds (same.mp h)⟩

namespace FieldType

theorem any_needsToken_iff :
    types.any (·.needsToken) = true ↔ .token ∈ types ∨ .optionalToken ∈ types := by
  rw [List.any_eq_true]
  constructor
  · rintro ⟨type, member, needs⟩
    cases type with
    | token => exact .inl member
    | optionalToken => exact .inr member
    | primitive | node | optionalNode | sequence => exact nomatch needs
  · rintro (member | member)
    · exact ⟨_, member, rfl⟩
    · exact ⟨_, member, rfl⟩

theorem any_needsAtom_iff : types.any (·.needsAtom) = true ↔ .primitive .atom ∈ types := by
  rw [List.any_eq_true]
  constructor
  · rintro ⟨type, member, needs⟩
    unfold needsAtom at needs
    split at needs
    · exact member
    · exact nomatch needs
  · exact fun member => ⟨_, member, rfl⟩

theorem any_isSequence_iff :
    types.any (·.isSequence) = true ↔ ∃ target, .sequence target ∈ types := by
  rw [List.any_eq_true]
  constructor
  · rintro ⟨type, member, needs⟩
    cases type with
    | sequence target => exact ⟨target, member⟩
    | token | optionalToken | primitive | node | optionalNode => exact nomatch needs
  · exact fun ⟨target, member⟩ => ⟨_, member, rfl⟩

end FieldType

/-! ### Siblings -/

namespace Schema

variable {sibling : Category} {d : Nat}

/-- What a field refers to is declared up to there, and with the lifetime. -/
theorem WellFormed.exists_resolve (wellFormed : schema.WellFormed) (isIndex : schema.IsIndex index)
    (found : schema.categories[c]? = some category) (member : type ∈ category.fieldTypes)
    (refers : type.target? = some name) :
    ∃ target, index.resolve name = some target ∧ target.category ≤ c ∧
      schema.isPlain target = false := by
  obtain ⟨node, inside, field, within, rfl⟩ := Category.mem_fieldTypes_iff.mp member
  have reaches := wellFormed.targets c category found node inside field within name refers
  obtain ⟨target, declared, upTo, embeddable⟩ := reaches_iff.mp reaches
  exact ⟨target, (isIndex name target).mpr declared, upTo, embeddable⟩

theorem mem_namesFrom_iff_of_resolve (resolved : index.resolve name = some target)
    (member : type ∈ types) (refers : type.target? = some name) :
    name ∈ namesFrom index d types ↔ d = target.category := by
  rw [mem_namesFrom_iff]
  constructor
  · rintro ⟨_, -, -, inside⟩
    rw [resolved] at inside
    exact (Option.some.inj inside).symm
  · rintro rfl
    exact ⟨type, member, refers, by rw [resolved]; rfl⟩

/-- A name of the own unit is on no line. -/
theorem filter_siblings_of_own (resolved : index.resolve name = some target)
    (member : type ∈ types) (refers : type.target? = some name) (own : target.category = c) :
    (siblings schema index c types).filter (name ∈ namesFrom index ·.2 types) = [] := by
  rw [List.filter_eq_nil_iff]
  rintro ⟨sibling, d⟩ among inside
  rw [decide_eq_true_iff, mem_namesFrom_iff_of_resolve resolved member refers] at inside
  exact (mem_siblings_iff.mp among).2.1 (inside.trans own)

/-- A name of another unit is on the line of this unit. -/
theorem filter_siblings_of_other (resolved : index.resolve name = some target)
    (member : type ∈ types) (refers : type.target? = some name) (other : target.category ≠ c)
    (found : schema.categories[target.category]? = some sibling) :
    (siblings schema index c types).filter (name ∈ namesFrom index ·.2 types) =
      [(sibling, target.category)] := by
  have named (d : Nat) := mem_namesFrom_iff_of_resolve (d := d) resolved member refers
  have nonempty := List.ne_nil_of_mem ((named target.category).mpr rfl)
  have among := mem_siblings_iff.mpr ⟨found, other, nonempty⟩
  have once : (siblings schema index c types).Nodup :=
    List.Nodup.of_map _ (pairwise_siblings.imp Nat.ne_of_lt)
  have only : ∀ entry ∈ siblings schema index c types,
      decide (name ∈ namesFrom index entry.2 types) =
        decide (entry = (sibling, target.category)) := by
    rintro ⟨another, d⟩ entry
    rw [decide_eq_decide, named d]
    constructor
    · rintro rfl
      have same := found.symm.trans (mem_siblings_iff.mp entry).1
      rw [Option.some.inj same]
    · exact fun same => (Prod.mk.inj same).2
  rw [List.filter_congr only, List.filter_eq, List.count_eq_one_of_mem once among]
  rfl

end Schema

/-! ### Pages -/

namespace Source

/-- The page of a file. -/
def File.page (file : File) : Page :=
  ⟨file.unit, file.lines, rfl⟩

namespace File.Legible

variable (legible : file.Legible)
include legible

theorem uses_page : file.page.uses = "std::fmt" :: file.imports.map Import.target := by
  rw [Page.uses, page, legible.readUnit_lines]
  simp [UnitLine.path?, List.filterMap_cons, List.filterMap_append, List.filterMap_map,
    List.filterMap_flatMap, Function.comp_def]

theorem fields_page : file.page.fields = file.records.flatMap fun record =>
    record.fields.map fun field => (field.1, field.2.text) := by
  rw [Page.fields, page, legible.readUnit_lines]
  simp [UnitLine.field?, List.filterMap_cons, List.filterMap_append, List.filterMap_map,
    List.filterMap_flatMap, Function.comp_def]

theorem heads_page (kind : HeadKind) : file.page.heads kind =
    match kind with
    | .union => [(file.union, true)]
    | .variant | .record | .constructors =>
      file.records.map fun record => (record.name, record.lifetime)
    | .display => (file.union, true) ::
      file.records.map fun record => (record.name, record.lifetime) := by
  have single : file.records.flatMap (fun record => [(record.name, record.lifetime)]) =
      file.records.map fun record => (record.name, record.lifetime) :=
    List.map_eq_flatMap.symm
  rw [Page.heads, page, legible.readUnit_lines]
  cases kind <;> simp [UnitLine.head?, List.filterMap_cons, List.filterMap_append,
    List.filterMap_map, List.filterMap_flatMap, Function.comp_def, single]

theorem declared_page : file.page.declared = file.declared := by
  rw [Page.declared, legible.heads_page, legible.heads_page]
  rfl

end File.Legible

end Source

/-- The names of a file that is generated are written as names. -/
theorem Schema.WellFormed.legible (wellFormed : schema.WellFormed)
    (isOf : file.IsOf schema index c category) (found : schema.categories[c]? = some category) :
    file.Legible := by
  have named := wellFormed.categories category (List.mem_of_getElem? found)
  refine ⟨isOf.union ▸ inName_of_accepts named.name.written, fun record among => ?_⟩
  obtain ⟨n, place⟩ := List.mem_iff_getElem?.mp among
  obtain ⟨node, inside, same⟩ := isOf.exists_node place
  have nodeNamed := named.nodes node (List.mem_of_getElem? inside)
  refine ⟨same.name ▸ inName_of_accepts nodeNamed.name.written,
    same.tag ▸ inName_of_accepts nodeNamed.tag.written, fun field member => ?_⟩
  rw [same.fields] at member
  obtain ⟨written, within, rfl⟩ := List.mem_map.mp member
  exact inName_of_accepts (nodeNamed.fields written within).written

/-! ### Records -/

namespace Source.File.IsOf

variable (isOf : file.IsOf schema index c category)
include isOf

theorem map_records : (file.records.map fun record => (record.name, record.lifetime)) =
    category.nodes.map Node.head := by
  rw [eq_comm, ← List.forall₂_eq_eq_eq, List.forall₂_map_left_iff, List.forall₂_map_right_iff]
  exact isOf.records.imp fun node record same => by rw [same.name, same.lifetime]; rfl

theorem flatMap_fields : (file.records.flatMap fun record =>
    record.fields.map fun field => (field.1, field.2.text)) =
      category.nodes.flatMap fun node => node.fields.map fun field =>
        (field.name, field.type.spelling schema.collaborators) := by
  have each : List.Forall₂ (· = ·)
      (category.nodes.map fun node => node.fields.map fun field =>
        (field.name, field.type.spelling schema.collaborators))
      (file.records.map fun record => record.fields.map fun field => (field.1, field.2.text)) := by
    rw [List.forall₂_map_left_iff, List.forall₂_map_right_iff]
    refine isOf.records.imp fun node record same => ?_
    rw [same.fields, List.map_map]
    exact List.map_congr_left fun field _ => by simp [FieldType.text_typeExpr]
  rw [List.forall₂_eq_eq_eq] at each
  rw [List.flatMap_def, List.flatMap_def, each]

end Source.File.IsOf

/-! ### Closed units -/

/-- The path on which a unit imports what its types use of another category. -/
def siblingPath (schema : Schema) (index : Index) (types : List FieldType)
    (sibling : Category × Nat) : String :=
  (Import.sibling schema.collaborators.siblingPrefix sibling.1.moduleName
    (namesFrom index sibling.2 types)).target

namespace Schema.HasFiles

variable (hasFiles : schema.HasFiles index files) (isIndex : schema.IsIndex index)
  (wellFormed : schema.WellFormed)

theorem map_target_imports (isOf : file.IsOf schema index c category) :
    ∃ tokens atoms sequences,
      file.imports.map Import.target = schema.collaborators.arena ::
        (tokens ++ atoms ++ sequences ++ (siblings schema index c category.fieldTypes).map
          (siblingPath schema index category.fieldTypes)) ∧
      UsedIf (.token ∈ category.fieldTypes ∨ .optionalToken ∈ category.fieldTypes)
        schema.collaborators.token tokens ∧
      UsedIf (.primitive .atom ∈ category.fieldTypes) schema.collaborators.atom atoms ∧
      UsedIf (∃ target, .sequence target ∈ category.fieldTypes) schema.collaborators.sequence
        sequences := by
  refine ⟨_, _, _, ?_, usedIf_ite FieldType.any_needsToken_iff,
    usedIf_ite FieldType.any_needsAtom_iff, usedIf_ite FieldType.any_isSequence_iff⟩
  have path (test : Bool) (path : String) :
      (if test then [Import.path path] else []).map Import.target =
        if test then [path] else [] := by
    cases test <;> rfl
  rw [isOf.imports, imports, List.map_append, List.map_append, List.map_append, List.map_append,
    path, path, path, siblingImports_eq_map, List.map_map]
  simp only [List.append_assoc]
  rfl

section Names

include isIndex wellFormed

/-- The names on the line of a category are names. -/
theorem isName_of_mem_namesFrom {d : Nat} (member : name ∈ namesFrom index d types) :
    PlainName name := by
  obtain ⟨type, -, -, placed⟩ := mem_namesFrom_iff.mp member
  obtain ⟨target, resolved, -⟩ := Option.map_eq_some_iff.mp placed
  cases (isIndex name target).mp resolved with
  | union found =>
    exact inName_of_accepts
      (wellFormed.categories _ (List.mem_of_getElem? found)).name.written
  | record found inside =>
    exact inName_of_accepts ((wellFormed.categories _ (List.mem_of_getElem? found)).nodes _
      (List.mem_of_getElem? inside)).name.written

theorem readImport?_siblingPath {sibling : Category × Nat}
    (among : sibling ∈ siblings schema index c types) :
    readImport? (siblingPath schema index types sibling) =
      some (schema.collaborators.siblingPrefix ++ "::" ++ sibling.1.moduleName,
        namesFrom index sibling.2 types) :=
  readImport?_target (fun _ => isName_of_mem_namesFrom isIndex wellFormed)
    (mem_siblings_iff.mp among).2.2

/-- A path imports the names that its line has. -/
theorem filter_siblingPaths (name : String) :
    ((siblings schema index c types).map (siblingPath schema index types)).filter
      (importsName name) = ((siblings schema index c types).filter
        (name ∈ namesFrom index ·.2 types)).map (siblingPath schema index types) := by
  rw [List.filter_map]
  refine congrArg (List.map _) (List.filter_congr fun sibling among => ?_)
  rw [Function.comp_apply, importsName, readImport?_siblingPath isIndex wellFormed among]
  rfl

theorem lt_of_mem_siblings {sibling : Category} {d : Nat}
    (found : schema.categories[c]? = some category)
    (among : (sibling, d) ∈ siblings schema index c category.fieldTypes) : d < c := by
  obtain ⟨-, other, nonempty⟩ := mem_siblings_iff.mp among
  obtain ⟨name, inside⟩ := List.exists_mem_of_ne_nil _ nonempty
  obtain ⟨type, member, refers, placed⟩ := mem_namesFrom_iff.mp inside
  obtain ⟨target, resolved, upTo, -⟩ := wellFormed.exists_resolve isIndex found member refers
  rw [resolved] at placed
  have same : target.category = d := Option.some.inj placed
  omega

end Names

section Pages

include hasFiles

include wellFormed in
theorem exists_page {sibling : Category} {d : Nat}
    (found : schema.categories[d]? = some sibling) :
    ∃ file : File, (files.map File.page)[d]? = some file.page ∧
      file.IsOf schema index d sibling ∧ file.Legible := by
  obtain ⟨file, place, isOf⟩ := hasFiles.exists_file found
  exact ⟨file, by rw [List.getElem?_map, place, Option.map_some], isOf,
    wellFormed.legible isOf found⟩

include isIndex wellFormed

theorem declares_page_iff {d : Nat} {page : Page} (place : (files.map File.page)[d]? = some page) :
    name ∈ page.declared.map (·.1) ↔ (index.resolve name).map (·.category) = some d := by
  rw [List.getElem?_map] at place
  obtain ⟨file, inside, rfl⟩ := Option.map_eq_some_iff.mp place
  obtain ⟨category, found, isOf⟩ := hasFiles.exists_category inside
  rw [(wellFormed.legible isOf found).declared_page]
  exact hasFiles.declares_iff isIndex inside

theorem declaredBy (resolved : index.resolve name = some target) :
    DeclaredBy (files.map File.page) target.category name := by
  intro e other place
  rw [hasFiles.declares_page_iff isIndex wellFormed place, resolved, Option.map_some,
    Option.some.injEq, eq_comm]

theorem resolved_of_refers (found : schema.categories[c]? = some category)
    (member : type ∈ category.fieldTypes) (refers : type.target? = some name) :
    let paths := (siblings schema index c category.fieldTypes).map
      (siblingPath schema index category.fieldTypes)
    ∃ d other, (files.map File.page)[d]? = some other ∧
      DeclaredBy (files.map File.page) d name ∧ (name, true) ∈ other.declared ∧
      ((d = c ∧ paths.filter (importsName name) = []) ∨
        (d < c ∧ ∃ path names, paths.filter (importsName name) = [path] ∧
          readImport? path = some
            (schema.collaborators.siblingPrefix ++ "::" ++ other.unit.module, names))) := by
  obtain ⟨target, resolved, upTo, embeddable⟩ :=
    wellFormed.exists_resolve isIndex found member refers
  have declared := (isIndex name target).mp resolved
  obtain ⟨file, place, withLifetime⟩ := hasFiles.exists_mem_declared declared embeddable
  obtain ⟨sibling, known, isOf⟩ := hasFiles.exists_category place
  refine ⟨_, file.page, by rw [List.getElem?_map, place, Option.map_some],
    hasFiles.declaredBy isIndex wellFormed resolved,
    (wellFormed.legible isOf known).declared_page ▸ withLifetime, ?_⟩
  rw [filter_siblingPaths isIndex wellFormed]
  by_cases own : target.category = c
  · rw [filter_siblings_of_own resolved member refers own]
    exact .inl ⟨own, rfl⟩
  · have single := filter_siblings_of_other resolved member refers own known
    have among : (sibling, target.category) ∈ siblings schema index c category.fieldTypes :=
      List.mem_of_mem_filter (single ▸ List.mem_singleton_self _)
    have read := readImport?_siblingPath isIndex wellFormed among
    rw [← isOf.module] at read
    rw [single]
    exact .inr ⟨by omega, _, _, rfl, read⟩

theorem importsFrom_of_mem_siblings {sibling : Category × Nat}
    (among : sibling ∈ siblings schema index c types) :
    ImportsFrom (files.map File.page) schema.collaborators.siblingPrefix types sibling.2
      (siblingPath schema index types sibling) := by
  obtain ⟨known, -, nonempty⟩ := mem_siblings_iff.mp among
  obtain ⟨file, place, isOf, -⟩ := hasFiles.exists_page wellFormed known
  have read := readImport?_siblingPath isIndex wellFormed among
  rw [← isOf.module] at read
  refine ⟨file.page, _, place, read, nonempty, pairwise_namesFrom, fun name => ?_⟩
  rw [mem_namesFrom_iff, hasFiles.declares_page_iff isIndex wellFormed place]
  constructor
  · rintro ⟨type, member, refers, inside⟩
    exact ⟨inside, type, member, refers⟩
  · rintro ⟨inside, type, member, refers⟩
    exact ⟨type, member, refers, inside⟩

theorem nameClosed (isOf : file.IsOf schema index c category)
    (found : schema.categories[c]? = some category) :
    file.page.NameClosed (files.map File.page) c schema.collaborators category
      ((siblings schema index c category.fieldTypes).map
        (siblingPath schema index category.fieldTypes)) := by
  have legible := wellFormed.legible isOf found
  refine ⟨⟨isOf.union, isOf.module⟩, ?_, ?_, ?_, ?_, ?_, ?_, ?_⟩
  · rw [legible.fields_page, isOf.flatMap_fields]
  · exact fun type member name refers =>
      hasFiles.resolved_of_refers isIndex wellFormed found member refers
  · obtain ⟨tokens, atoms, sequences, same, needed⟩ := map_target_imports isOf
    exact ⟨tokens, atoms, sequences, by rw [legible.uses_page, same], needed⟩
  · refine ⟨(siblings schema index c category.fieldTypes).map (·.2), pairwise_siblings, ?_, ?_⟩
    · rw [List.forall_mem_map]
      rintro ⟨sibling, d⟩ among
      exact lt_of_mem_siblings isIndex wellFormed found among
    · rw [List.forall₂_map_left_iff, List.forall₂_map_right_iff, List.forall₂_same]
      exact fun sibling among => hasFiles.importsFrom_of_mem_siblings isIndex wellFormed among
  · rw [legible.heads_page, isOf.union]
  · intro kind ofRecord
    rw [legible.heads_page, ← isOf.map_records]
    simp only [List.mem_cons, List.not_mem_nil, or_false] at ofRecord
    rcases ofRecord with rfl | rfl | rfl <;> rfl
  · rw [legible.heads_page, isOf.union, isOf.map_records]

end Pages

end Schema.HasFiles

namespace Schema

/-- The units of a schema that passes the check know the types they name. -/
theorem units_nameClosed (checked : schema.check = .ok index) :
    ∃ pages : List Page, schema.units = .ok (pages.map (·.unit)) ∧
      pages.length = schema.categories.length ∧
      ∀ (c : Nat) (category : Category), schema.categories[c]? = some category →
        ∃ page siblings, pages[c]? = some page ∧
          page.NameClosed pages c schema.collaborators category siblings := by
  obtain ⟨files, made, hasFiles⟩ := exists_files checked
  have wellFormed := wellFormed_of_check checked
  refine ⟨files.map File.page, ?_, by rw [List.length_map, hasFiles.length],
    fun c category found => ?_⟩
  · rw [List.map_map]
    exact units_eq_ok_iff.mpr ⟨files, made, rfl⟩
  · obtain ⟨file, place, isOf, -⟩ := hasFiles.exists_page wellFormed found
    exact ⟨file.page, _, place,
      hasFiles.nameClosed (isIndex_of_check checked) wellFormed isOf found⟩

/-- A unit that uses the sequence type and another unit, and neither tokens nor atoms. A record
without the lifetime is not imported. -/
theorem units_nameClosed_of_two :
    let expr : Category := ⟨"Expr", none,
      [⟨"NumberExpr", "Number", [⟨"token", .token⟩], .template "{}" ["token"]⟩,
        ⟨"GroupExpr", "Group", [⟨"inner", .node "Expr"⟩], .template "({})" ["inner"]⟩]⟩
    let stmt : Category := ⟨"Stmt", none, [⟨"BlockStmt", "Block",
      [⟨"groups", .sequence "GroupExpr"⟩, ⟨"result", .optionalNode "Expr"⟩],
      .custom [.forEach "groups" [.item] "; ", .ifPresent "result" [.item]]⟩]⟩
    let schema : Schema := ⟨{}, [expr, stmt]⟩
    ∃ (index : Index) (pages : List Page) (page : Page) (siblings : List String),
      schema.check = .ok index ∧ schema.units = .ok (pages.map (·.unit)) ∧
      pages[1]? = some page ∧
      page.NameClosed pages 1 schema.collaborators stmt siblings ∧
      page.uses = ["std::fmt", "bumpalo::Bump", "bumpalo::collections::Vec"] ++ siblings ∧
      page.fields = [("groups", "Vec<'a, GroupExpr<'a>>"), ("result", "Option<Expr<'a>>")] := by
  intro expr stmt schema
  let index : Index := ⟨[("BlockStmt", .record 1 0), ("Stmt", .union 1),
    ("GroupExpr", .record 0 1), ("NumberExpr", .record 0 0), ("Expr", .union 0)]⟩
  have names : checkNames schema.collaborators.reservedNames 0 ⟨[], .empty⟩ schema.categories =
      .ok index := by
    decide +kernel
  have nodes : checkNodes schema index 0 schema.categories = .ok () := by
    decide +kernel
  have embedding : schema.checkEmbedding index = .ok () := by
    have records : schema.records = [(0, 0), (0, 1), (1, 0)] := by decide
    have number : schema.embedded index (0, 0) = [] := by decide
    have group : schema.embedded index (0, 1) = [] := by decide
    have block : schema.embedded index (1, 0) = [] := by decide
    simp [checkEmbedding, Graph.cycle?, Graph.visitAll, Graph.visit, records, number, group, block]
  have checked : schema.check = .ok index := check_eq_ok_iff.mpr ⟨names, nodes, embedding⟩
  obtain ⟨pages, made, -, each⟩ := units_nameClosed checked
  obtain ⟨page, siblings, place, closed⟩ := each 1 stmt rfl
  refine ⟨index, pages, page, siblings, checked, made, place, closed, ?_, ?_⟩
  · obtain ⟨tokens, atoms, sequences, uses, ifTokens, ifAtoms, ifSequences⟩ := closed.uses
    obtain rfl : tokens = [] := (ifTokens.resolve_left fun needed => absurd needed.1 (by decide)).2
    obtain rfl : atoms = [] := (ifAtoms.resolve_left fun needed => absurd needed.1 (by decide)).2
    have sequence : ∃ target, .sequence target ∈ stmt.fieldTypes := ⟨"GroupExpr", by decide⟩
    have path := (ifSequences.resolve_right fun missing => missing.1 sequence).2
    rw [uses, path]
    rfl
  · rw [closed.fields]
    decide +kernel

end Schema

end TreeSchema
