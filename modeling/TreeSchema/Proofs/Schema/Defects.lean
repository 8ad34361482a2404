import TreeSchema.Proofs.Schema.Embedding

/-!
What the check reports. A defect that refuses a schema is in that schema, for the names that the
defect carries.
-/

namespace TreeSchema

variable {schema : Schema} {index : Index} {category : Category} {node : Node} {defect : Defect}
  {name field : String} {c n : Nat}

/-! ### Uses of fields -/

/-- The ways in which rendering programs use fields. -/
inductive FieldUse where
  | shown
  | loop
  | block

namespace FieldUse

/-- Whether fields of the type can be used so. -/
def admits : FieldUse → FieldType → Bool
  | shown => FieldType.isDisplayable
  | loop => FieldType.isSequence
  | block => FieldType.isOptional

/-- What is wrong with using a field of any other type. -/
def misuse : FieldUse → String → String → Defect
  | shown => .notTemplatable
  | loop => .notSequence
  | block => .notOptional

end FieldUse

/-- How a step uses a field, by itself and not by the steps inside it. -/
def RenderOp.use? : RenderOp → Option (FieldUse × String)
  | .field name => some (.shown, name)
  | .forEach name _ _ => some (.loop, name)
  | .ifPresent name _ => some (.block, name)
  | .literal _ | .item => none

namespace Node

/-- The template or the program of the node uses a field of this name, whether there is one or
not. -/
inductive Uses (node : Node) : FieldUse → String → Prop
  | argument {format name : String} {args : List String} (render : node.render = .template format args)
    (member : name ∈ args) : Uses node .shown name
  | step {ops : List RenderOp} {op : RenderOp} {bound : Bool} {use : FieldUse} {name : String}
    (render : node.render = .custom ops) (occurs : RenderOp.Occurs false ops op bound)
    (uses : op.use? = some (use, name)) : Uses node use name

/-- The node uses a field of its own in a way that the field's type does not admit. -/
def Misuses (node : Node) (use : FieldUse) (name : String) : Prop :=
  node.Uses use name ∧ ∃ type, ⟨name, type⟩ ∈ node.fields ∧ use.admits type = false

end Node

/-! ### Defects -/

namespace Schema

def nodes (schema : Schema) : List Node :=
  schema.categories.flatMap (·.nodes)

/-- A node of category `c` has a field that refers to the target, all by these names. -/
def Refers (schema : Schema) (c : Nat) (name field target : String) : Prop :=
  ∃ category node type, schema.categories[c]? = some category ∧ node ∈ category.nodes ∧
    node.name = name ∧ ⟨field, type⟩ ∈ node.fields ∧ type.target? = some target

/-- The schema has the defect, for the names that the defect carries. -/
def HasDefect (schema : Schema) : Defect → Prop
  | .emptyCategory name => ∃ category ∈ schema.categories, category.name = name ∧
      category.nodes = []
  | .duplicateModule module => 2 ≤ (schema.categories.map (·.moduleName)).count module
  | .duplicateName name => 2 ≤ schema.typeNames.count name
  | .duplicateTag name tag => ∃ category ∈ schema.categories, category.name = name ∧
      2 ≤ (category.nodes.map (·.tag)).count tag
  | .duplicateField name field => ∃ node ∈ schema.nodes, node.name = name ∧
      2 ≤ (node.fields.map (·.name)).count field
  | .invalidName name style => (∃ taken, schema.Writes style taken name) ∧
      style.accepts name = false
  | .reservedName name => ∃ style taken, schema.Writes style taken name ∧
      (name ∈ keywords ∨ name ∈ taken)
  | .unknownTarget name field target => (∃ c, schema.Refers c name field target) ∧
      target ∉ schema.typeNames
  | .forwardReference name field target later => ∃ c d category, schema.Refers c name field target ∧
      c < d ∧ schema.categories[d]? = some category ∧ category.name = later ∧
      (category.name = target ∨ ∃ record ∈ category.nodes, record.name = target)
  | .plainRecordTarget name field target => (∃ c, schema.Refers c name field target) ∧
      ∃ record ∈ schema.nodes, record.name = target ∧
        ∀ field ∈ record.fields, field.type.target? = none
  | .recordCycle name path => schema.HoldsItself name path
  | .unknownField name field => ∃ node ∈ schema.nodes, node.name = name ∧
      (∃ use, node.Uses use field) ∧ field ∉ node.fields.map (·.name)
  | .invalidTemplate name message => ∃ node ∈ schema.nodes, node.name = name ∧
      ∃ format args fault, node.render = .template format args ∧
        Template.parse format = .error fault ∧ fault.message = message
  | .templateArity name placeholders args => ∃ node ∈ schema.nodes, node.name = name ∧
      ∃ format names segments, node.render = .template format names ∧
        Template.parse format = .ok segments ∧ Template.placeholders segments = placeholders ∧
        names.length = args ∧ placeholders ≠ args
  | .notTemplatable name field => ∃ node ∈ schema.nodes, node.name = name ∧
      node.Misuses .shown field
  | .notSequence name field => ∃ node ∈ schema.nodes, node.name = name ∧ node.Misuses .loop field
  | .notOptional name field => ∃ node ∈ schema.nodes, node.name = name ∧ node.Misuses .block field
  | .unboundItem name => ∃ node ∈ schema.nodes, node.name = name ∧
      ∃ ops, node.render = .custom ops ∧ .item ∈ ops

theorem mem_nodes (among : category ∈ schema.categories) (member : node ∈ category.nodes) :
    node ∈ schema.nodes :=
  List.mem_flatMap.mpr ⟨category, among, member⟩

end Schema

/-! ### Names -/

theorem two_le_count {α : Type} [DecidableEq α] {a : α} {front back : List α} (before : a ∈ front) :
    2 ≤ (front ++ a :: back).count a := by
  have once : 0 < front.count a := List.count_pos_iff.mpr before
  rw [List.count_append, List.count_cons_self]
  omega

theorem cons_subset_concat {α : Type} {a : α} {seen front : List α} (before : seen ⊆ front) :
    a :: seen ⊆ front ++ [a] :=
  List.cons_subset.mpr
    ⟨List.mem_append_right _ List.mem_cons_self, List.subset_append_of_subset_left _ before⟩

theorem Schema.Writes.hasDefect {style : NameStyle} {taken : List String}
    (writes : schema.Writes style taken name) (refused : style.check taken name = .error defect) :
    schema.HasDefect defect := by
  unfold NameStyle.check at refused
  split at refused
  next wrong =>
    cases refused
    exact ⟨⟨taken, writes⟩, by simpa using wrong⟩
  next =>
    split at refused
    next clash =>
      cases refused
      exact ⟨style, taken, writes, clash⟩
    next => cases refused

theorem hasDefect_of_checkFieldNames (front : List Field) {fields : List Field}
    {seen : List String} (among : category ∈ schema.categories) (member : node ∈ category.nodes)
    (parts : node.fields = front ++ fields) (before : seen ⊆ front.map (·.name))
    (refused : checkFieldNames node.name seen fields = .error defect) :
    schema.HasDefect defect := by
  induction fields generalizing seen front with
  | nil => cases refused
  | cons field rest ih =>
    have inside : field ∈ node.fields := by simp [parts]
    rw [checkFieldNames, seq_eq_error_iff, seq_eq_error_iff] at refused
    rcases refused with style | ⟨-, twice | ⟨-, later⟩⟩
    · exact (Schema.Writes.field among member inside).hasDefect style
    · obtain ⟨clash, rfl⟩ := require_eq_error_iff.mp twice
      refine ⟨node, Schema.mem_nodes among member, rfl, ?_⟩
      rw [parts, List.map_append, List.map_cons]
      exact two_le_count (before (by simpa using clash))
    · refine ih (front ++ [field]) (by simp [parts]) ?_ later
      rw [List.map_append]
      exact cons_subset_concat before

theorem Index.checkInsert_eq_error_iff {target : Target} :
    index.checkInsert name target = .error defect ↔
      name ∈ index.entries.map (·.1) ∧ .duplicateName name = defect := by
  unfold checkInsert insert?
  cases resolved : index.resolve name with
  | none => exact ⟨nofun, fun ⟨known, _⟩ => absurd known (resolve_eq_none_iff.mp resolved)⟩
  | some other =>
    have known : name ∈ index.entries.map (·.1) := by
      by_contra unknown
      rw [resolve_eq_none_iff.mpr unknown] at resolved
      cases resolved
    exact ⟨fun refused => ⟨known, Except.error.inj refused⟩, fun ⟨_, same⟩ => congrArg _ same⟩

/-- The names of the nodes are read into the index, and nothing else. -/
theorem map_entries_of_checkNodeNames {reserved tags : List String} {nodes : List Node}
    {after : Index} (read : checkNodeNames reserved name c n tags index nodes = .ok after) :
    after.entries.map (·.1) = (nodes.map (·.name)).reverse ++ index.entries.map (·.1) := by
  induction nodes generalizing n tags index with
  | nil =>
    cases read
    rfl
  | cons node rest ih =>
    obtain ⟨-, -, -, later⟩ := checkNodeNames_cons_eq_ok_iff.mp read
    simp [ih later]

/-- The names that the index holds are those of the schema before the nodes. -/
theorem hasDefect_of_checkNodeNames (front : List Node) (earlier : List String) {nodes : List Node}
    {tags later : List String} (among : category ∈ schema.categories)
    (parts : category.nodes = front ++ nodes) (before : tags ⊆ front.map (·.tag))
    (order : schema.typeNames = earlier ++ (nodes.map (·.name) ++ later))
    (known : index.entries.map (·.1) ⊆ earlier)
    (refused : checkNodeNames schema.collaborators.reservedNames category.name c n tags index nodes =
      .error defect) : schema.HasDefect defect := by
  induction nodes generalizing n tags index front earlier with
  | nil => cases refused
  | cons node rest ih =>
    have member : node ∈ category.nodes := by simp [parts]
    rw [checkNodeNames, seq_eq_error_iff, seq_eq_error_iff, seq_eq_error_iff, bind_eq_error_iff]
      at refused
    rcases refused with style | ⟨-, style | ⟨-, twice | ⟨-, taken | ⟨after, inserted, refused⟩⟩⟩⟩
    · exact (Schema.Writes.record among member).hasDefect style
    · exact (Schema.Writes.tag among member).hasDefect style
    · obtain ⟨clash, rfl⟩ := require_eq_error_iff.mp twice
      refine ⟨category, among, rfl, ?_⟩
      rw [parts, List.map_append, List.map_cons]
      exact two_le_count (before (by simpa using clash))
    · obtain ⟨clash, rfl⟩ := Index.checkInsert_eq_error_iff.mp taken
      change 2 ≤ schema.typeNames.count node.name
      rw [order, List.map_cons, List.cons_append]
      exact two_le_count (known clash)
    · obtain ⟨-, rfl⟩ := Index.checkInsert_eq_ok_iff.mp inserted
      rcases seq_eq_error_iff.mp refused with fields | ⟨-, refused⟩
      · exact hasDefect_of_checkFieldNames [] among member rfl (by simp) fields
      · refine ih (front ++ [node]) (earlier ++ [node.name]) ?_ ?_ ?_ ?_ refused
        · simp [parts]
        · rw [List.map_append]
          exact cons_subset_concat before
        · simp [order]
        · exact cons_subset_concat known

/-- The names that have been read are those of the categories before. -/
theorem hasDefect_of_checkNames (front : List Category) {categories : List Category} {names : Names}
    (parts : schema.categories = front ++ categories)
    (modules : names.modules ⊆ front.map (·.moduleName))
    (known : names.index.entries.map (·.1) ⊆ front.flatMap Category.typeNames)
    (refused : checkNames schema.collaborators.reservedNames c names categories = .error defect) :
    schema.HasDefect defect := by
  induction categories generalizing c names front with
  | nil => cases refused
  | cons category rest ih =>
    have among : category ∈ schema.categories := by simp [parts]
    have order : schema.typeNames = (front.flatMap Category.typeNames ++ [category.name]) ++
        (category.nodes.map (·.name) ++ rest.flatMap Category.typeNames) := by
      simp [Schema.typeNames_eq, parts, Category.typeNames]
    rw [checkNames, seq_eq_error_iff, seq_eq_error_iff, seq_eq_error_iff, seq_eq_error_iff,
      bind_eq_error_iff] at refused
    rcases refused with style | ⟨-, style | ⟨-, twice | ⟨-, empty | ⟨-, taken |
      ⟨after, inserted, refused⟩⟩⟩⟩⟩
    · exact (Schema.Writes.category among).hasDefect style
    · exact (Schema.Writes.module among).hasDefect style
    · obtain ⟨clash, rfl⟩ := require_eq_error_iff.mp twice
      change 2 ≤ (schema.categories.map (·.moduleName)).count category.moduleName
      rw [parts, List.map_append, List.map_cons]
      exact two_le_count (modules (by simpa using clash))
    · obtain ⟨none, rfl⟩ := require_eq_error_iff.mp empty
      exact ⟨category, among, rfl, by simpa using none⟩
    · obtain ⟨clash, rfl⟩ := Index.checkInsert_eq_error_iff.mp taken
      change 2 ≤ schema.typeNames.count category.name
      rw [order, List.append_assoc]
      exact two_le_count (known clash)
    · obtain ⟨-, rfl⟩ := Index.checkInsert_eq_ok_iff.mp inserted
      have read : category.name :: names.index.entries.map (·.1) ⊆
          front.flatMap Category.typeNames ++ [category.name] := cons_subset_concat known
      rcases bind_eq_error_iff.mp refused with nodes | ⟨after, made, refused⟩
      · refine hasDefect_of_checkNodeNames [] _ among rfl (by simp) order ?_ nodes
        exact read
      · refine ih (front ++ [category]) (by simp [parts]) ?_ ?_ refused
        · rw [List.map_append]
          exact cons_subset_concat modules
        · rw [map_entries_of_checkNodeNames made, List.flatMap_append, List.flatMap_singleton,
            Category.typeNames, List.append_cons]
          refine List.append_subset.mpr ⟨?_, List.subset_append_of_subset_left _ read⟩
          exact List.subset_append_of_subset_right _ (List.reverse_subset.mpr (List.Subset.refl _))

/-! ### References -/

namespace Schema

theorem IsIndex.notMem_typeNames (isIndex : schema.IsIndex index)
    (unknown : index.resolve name = none) : name ∉ schema.typeNames := by
  intro member
  obtain ⟨target, declared⟩ := mem_typeNames_iff.mp member
  rw [(isIndex name target).mpr declared] at unknown
  cases unknown

theorem hasDefect_of_checkReference {field : Field} (isIndex : schema.IsIndex index)
    (found : schema.categories[c]? = some category) (member : node ∈ category.nodes)
    (inside : field ∈ node.fields)
    (refused : checkReference schema index c node.name field = .error defect) :
    schema.HasDefect defect := by
  unfold checkReference at refused
  split at refused
  next => cases refused
  next name refers =>
    have reference : schema.Refers c node.name field.name name :=
      ⟨category, node, field.type, found, member, rfl, inside, refers⟩
    split at refused
    next unknown =>
      cases refused
      exact ⟨⟨c, reference⟩, isIndex.notMem_typeNames unknown⟩
    next target known =>
      have declared := (isIndex name target).mp known
      rcases seq_eq_error_iff.mp refused with forward | ⟨-, plain⟩
      · obtain ⟨later, rfl⟩ := require_eq_error_iff.mp forward
        have later : c < target.category := by simpa using later
        cases declared with
        | @union d category there =>
          exact ⟨c, d, category, reference, later, there, by simp [Target.category, there], .inl rfl⟩
        | @record d n category record there place =>
          exact ⟨c, d, category, reference, later, there, by simp [Target.category, there],
            .inr ⟨record, List.mem_of_getElem? place, rfl⟩⟩
      · obtain ⟨bare, rfl⟩ := require_eq_error_iff.mp plain
        refine ⟨⟨c, reference⟩, ?_⟩
        cases declared with
        | union there => cases bare
        | @record d n category record there place =>
          have known := node?_eq_some_iff.mpr ⟨category, there, place⟩
          have bare : record.needsLifetime = false := by simpa [isPlain, known] using bare
          refine ⟨record, mem_nodes (List.mem_of_getElem? there) (List.mem_of_getElem? place), rfl,
            fun held within => ?_⟩
          by_contra refers
          have lifetime := Node.needsLifetime_eq_true_iff.mpr ⟨held, within, refers⟩
          rw [bare] at lifetime
          cases lifetime

end Schema

/-! ### Rendering programs -/

namespace Node

/-- Looks the field up and requires that it can be used so. -/
def checkUse (node : Node) (use : FieldUse) (name : String) : Except Defect Unit := do
  let type ← node.fieldType name
  require (use.admits type) (use.misuse node.name name)

theorem fieldType_eq_error (refused : node.fieldType name = .error defect) :
    name ∉ node.fields.map (·.name) ∧ .unknownField node.name name = defect := by
  unfold fieldType at refused
  split at refused
  next => cases refused
  next unknown =>
    refine ⟨fun member => ?_, Except.error.inj refused⟩
    obtain ⟨field, inside, rfl⟩ := List.mem_map.mp member
    have missed := List.find?_eq_none.mp unknown field inside
    simp at missed

theorem Uses.hasDefect {use : FieldUse} (member : node ∈ schema.nodes)
    (distinct : (node.fields.map (·.name)).Nodup) (uses : node.Uses use name)
    (refused : node.checkUse use name = .error defect) : schema.HasDefect defect := by
  rcases bind_eq_error_iff.mp refused with unknown | ⟨type, known, wrong⟩
  · obtain ⟨absent, rfl⟩ := fieldType_eq_error unknown
    exact ⟨node, member, rfl, ⟨use, uses⟩, absent⟩
  · obtain ⟨refuses, rfl⟩ := require_eq_error_iff.mp wrong
    have misuses : node.Misuses use name :=
      ⟨uses, type, (fieldType_eq_ok_iff distinct).mp known, refuses⟩
    cases use with
    | shown => exact ⟨node, member, rfl, misuses⟩
    | loop => exact ⟨node, member, rfl, misuses⟩
    | block => exact ⟨node, member, rfl, misuses⟩

theorem hasDefect_of_checkTemplate {format : String} {args : List String}
    (member : node ∈ schema.nodes) (distinct : (node.fields.map (·.name)).Nodup)
    (render : node.render = .template format args)
    (refused : checkTemplate node format args = .error defect) : schema.HasDefect defect := by
  unfold checkTemplate at refused
  split at refused
  next fault unread =>
    cases refused
    exact ⟨node, member, rfl, format, args, fault, render, unread, rfl⟩
  next segments read =>
    rcases seq_eq_error_iff.mp refused with arity | ⟨-, shown⟩
    · obtain ⟨unequal, rfl⟩ := require_eq_error_iff.mp arity
      exact ⟨node, member, rfl, format, args, segments, render, read, rfl, rfl,
        by simpa using unequal⟩
    · obtain ⟨arg, among, wrong⟩ := exists_of_forM_eq_error shown
      exact (Uses.argument render among).hasDefect member distinct wrong

end Node

namespace RenderOp

variable {ops : List RenderOp} {op other : RenderOp} {bound inner : Bool}

/-- What is required of a step itself. -/
def checkOwn (node : Node) (bound : Bool) : RenderOp → Except Defect Unit
  | .literal _ => .ok ()
  | .field name => node.checkUse .shown name
  | .item => require bound (.unboundItem node.name)
  | .forEach name _ _ => node.checkUse .loop name
  | .ifPresent name _ => node.checkUse .block name

/-- A step is checked by itself, and then the steps inside it are. -/
theorem checkOp_eq (node : Node) (bound : Bool) (op : RenderOp) :
    checkOp node bound op = (op.checkOwn node bound >>= fun _ => checkOps node true op.steps) := by
  cases op with
  | literal text =>
    rw [checkOp, steps, checkOps]
    rfl
  | field name =>
    rw [checkOp, steps, checkOps]
    exact (bind_pure (checkDisplayable node name)).symm
  | item =>
    rw [checkOp, steps, checkOps]
    exact (bind_pure (require bound (.unboundItem node.name))).symm
  | forEach name body separator =>
    rw [checkOp, checkOwn, Node.checkUse, bind_assoc]
    rfl
  | ifPresent name body =>
    rw [checkOp, checkOwn, Node.checkUse, bind_assoc]
    rfl

mutual

/-- What a check refuses is a step that occurs, for what is required of this step itself. -/
theorem exists_of_checkOp_eq_error (node : Node) (bound : Bool) (op : RenderOp)
    (refused : checkOp node bound op = .error defect) :
    ∃ other inner, Occurs bound [op] other inner ∧ other.checkOwn node inner = .error defect := by
  rw [checkOp_eq] at refused
  rcases seq_eq_error_iff.mp refused with own | ⟨-, inside⟩
  · exact ⟨op, bound, .here List.mem_cons_self, own⟩
  · match op with
    | .literal _ | .field _ | .item => cases inside
    | .forEach name body separator =>
      obtain ⟨other, inner, occurs, wrong⟩ := exists_of_checkOps_eq_error node true body inside
      exact ⟨other, inner, .inside List.mem_cons_self occurs, wrong⟩
    | .ifPresent name body =>
      obtain ⟨other, inner, occurs, wrong⟩ := exists_of_checkOps_eq_error node true body inside
      exact ⟨other, inner, .inside List.mem_cons_self occurs, wrong⟩

theorem exists_of_checkOps_eq_error (node : Node) (bound : Bool) (ops : List RenderOp)
    (refused : checkOps node bound ops = .error defect) :
    ∃ op inner, Occurs bound ops op inner ∧ op.checkOwn node inner = .error defect := by
  match ops with
  | [] => cases refused
  | op :: rest =>
    rw [checkOps] at refused
    rcases seq_eq_error_iff.mp refused with first | ⟨-, later⟩
    · obtain ⟨other, inner, occurs, wrong⟩ := exists_of_checkOp_eq_error node bound op first
      refine ⟨other, inner, ?_, wrong⟩
      cases occurs with
      | here member => exact .here (List.mem_cons.mpr (.inl (List.mem_singleton.mp member)))
      | inside member deeper =>
        exact .inside (List.mem_cons.mpr (.inl (List.mem_singleton.mp member))) deeper
    · obtain ⟨other, inner, occurs, wrong⟩ := exists_of_checkOps_eq_error node bound rest later
      exact ⟨other, inner, occurs.cons op, wrong⟩

end

theorem Occurs.bound_of_inside (occurs : Occurs bound ops op inner) (inside : bound = true) :
    inner = true := by
  induction occurs with
  | here => exact inside
  | inside _ _ ih => exact ih rfl

/-- Only the steps of the program itself can have no item bound around them. -/
theorem Occurs.mem (occurs : Occurs bound ops op false) : op ∈ ops := by
  cases occurs with
  | here member => exact member
  | inside _ deeper => cases deeper.bound_of_inside rfl

theorem Occurs.hasDefect (member : node ∈ schema.nodes)
    (distinct : (node.fields.map (·.name)).Nodup) (render : node.render = .custom ops)
    (occurs : Occurs false ops op inner) (refused : op.checkOwn node inner = .error defect) :
    schema.HasDefect defect := by
  cases op with
  | literal => cases refused
  | item =>
    obtain ⟨rfl, rfl⟩ := require_eq_error_iff.mp refused
    exact ⟨node, member, rfl, ops, render, occurs.mem⟩
  | field name => exact (Node.Uses.step render occurs rfl).hasDefect member distinct refused
  | forEach name => exact (Node.Uses.step render occurs rfl).hasDefect member distinct refused
  | ifPresent name => exact (Node.Uses.step render occurs rfl).hasDefect member distinct refused

end RenderOp

/-! ### The check -/

namespace Schema

theorem hasDefect_of_checkRender (member : node ∈ schema.nodes)
    (distinct : (node.fields.map (·.name)).Nodup) (refused : checkRender node = .error defect) :
    schema.HasDefect defect := by
  unfold checkRender at refused
  split at refused
  next format args render => exact Node.hasDefect_of_checkTemplate member distinct render refused
  next ops render =>
    obtain ⟨op, inner, occurs, wrong⟩ :=
      RenderOp.exists_of_checkOps_eq_error node false ops refused
    exact occurs.hasDefect member distinct render wrong

theorem exists_of_checkNodes_eq_error {categories : List Category}
    (refused : checkNodes schema index c categories = .error defect) :
    ∃ d category, categories[d]? = some category ∧
      ∃ node ∈ category.nodes, checkNode schema index (c + d) node = .error defect := by
  induction categories generalizing c with
  | nil => cases refused
  | cons category rest ih =>
    rw [checkNodes] at refused
    rcases seq_eq_error_iff.mp refused with here | ⟨-, later⟩
    · exact ⟨0, category, rfl, exists_of_forM_eq_error here⟩
    · obtain ⟨d, other, found, node, member, wrong⟩ := ih later
      rw [Nat.add_right_comm] at wrong
      exact ⟨d + 1, other, by simpa using found, node, member, wrong⟩

theorem hasDefect_of_checkNodes
    (names : checkNames schema.collaborators.reservedNames 0 ⟨[], .empty⟩ schema.categories =
      .ok index)
    (refused : checkNodes schema index 0 schema.categories = .error defect) :
    schema.HasDefect defect := by
  have isIndex := isIndex_of_checkNames names
  obtain ⟨named, -, -⟩ := exists_checkNames_eq_ok_iff.mp ⟨index, names⟩
  obtain ⟨c, category, found, node, member, refused⟩ := exists_of_checkNodes_eq_error refused
  rw [Nat.zero_add] at refused
  have among := List.mem_of_getElem? found
  rcases seq_eq_error_iff.mp refused with reference | ⟨-, render⟩
  · obtain ⟨field, inside, wrong⟩ := exists_of_forM_eq_error reference
    exact hasDefect_of_checkReference isIndex found member inside wrong
  · exact hasDefect_of_checkRender (mem_nodes among member)
      ((named category among).nodes node member).distinct render

/-- A schema is refused only for a defect that it has. -/
theorem hasDefect_of_check (refused : schema.check = .error defect) : schema.HasDefect defect := by
  rcases check_eq_error_iff.mp refused with names | ⟨index, names, nodes | ⟨-, embedding⟩⟩
  · exact hasDefect_of_checkNames [] rfl (List.nil_subset _) (List.nil_subset _) names
  · exact hasDefect_of_checkNodes names nodes
  · obtain ⟨record, names, rfl, holdsItself⟩ :=
      exists_of_checkEmbedding_eq_error (isIndex_of_checkNames names) embedding
    exact holdsItself

/-- A block inside a loop goes over a field that is no optional one. The name of the field, and that
of the record which the block is in, are what the report carries. -/
theorem hasDefect_of_nested_block :
    let schema : Schema := ⟨{}, [⟨"Expr", none, [
      ⟨"NumberExpr", "Number", [⟨"token", .token⟩], .template "{}" ["token"]⟩,
      ⟨"CallExpr", "Call", [⟨"args", .sequence "Expr"⟩, ⟨"mark", .optionalToken⟩],
        .custom [.ifPresent "mark" [.item],
          .forEach "args" [.item, .ifPresent "args" [.item]] ", "]⟩]⟩]⟩
    schema.check = .error (.notOptional "CallExpr" "args") ∧
    schema.HasDefect (.notOptional "CallExpr" "args") := by
  intro schema
  have refused : schema.check = .error (.notOptional "CallExpr" "args") := by
    decide +kernel
  exact ⟨refused, hasDefect_of_check refused⟩

end Schema

end TreeSchema
