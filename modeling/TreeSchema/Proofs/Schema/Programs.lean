import TreeSchema.Proofs.Schema.Names

/-!
The checks of references and rendering programs, once the names are known to be fine.
-/

namespace TreeSchema

variable {schema : Schema} {index : Index} {node : Node} {name : String} {kind : FieldType → Bool}
  {bound : Bool} {op : RenderOp} {ops : List RenderOp} {c n : Nat}

/-! ### References -/

theorem Node.needsLifetime_eq_true_iff :
    node.needsLifetime = true ↔ ∃ field ∈ node.fields, field.type.target? ≠ none := by
  simp [needsLifetime, FieldType.inArena, Option.isSome_iff_ne_none]

namespace Schema

theorem node?_eq_some_iff : schema.node? c n = some node ↔
    ∃ category, schema.categories[c]? = some category ∧ category.nodes[n]? = some node :=
  Option.bind_eq_some_iff

theorem reaches_iff : schema.Reaches c name ↔
    ∃ target, schema.Declares name target ∧ target.category ≤ c ∧
      schema.isPlain target = false := by
  constructor
  · intro reaches
    cases reaches with
    | @union d category found upTo named =>
      subst named
      exact ⟨.union d, .union found, upTo, rfl⟩
    | @record d category node field found upTo inside named member refers =>
      subst named
      obtain ⟨n, place⟩ := List.mem_iff_getElem?.mp inside
      have known := node?_eq_some_iff.mpr ⟨_, found, place⟩
      have lifetime := Node.needsLifetime_eq_true_iff.mpr ⟨_, member, refers⟩
      exact ⟨.record d n, .record found place, upTo, by simp [isPlain, known, lifetime]⟩
  · rintro ⟨target, declared, upTo, embeddable⟩
    cases declared with
    | union found => exact .union found upTo rfl
    | @record d n category node found inside =>
      have known := node?_eq_some_iff.mpr ⟨_, found, inside⟩
      have lifetime : node.needsLifetime = true := by simpa [isPlain, known] using embeddable
      obtain ⟨field, member, refers⟩ := Node.needsLifetime_eq_true_iff.mp lifetime
      exact .record found upTo (List.mem_of_getElem? inside) rfl member refers

theorem checkReference_eq_ok_iff (isIndex : schema.IsIndex index) {owner : String}
    {field : Field} :
    checkReference schema index c owner field = .ok () ↔
      ∀ name, field.type.target? = some name → schema.Reaches c name := by
  unfold checkReference
  cases field.type.target? with
  | none => simp
  | some name =>
    simp only [Option.some.injEq, forall_eq', reaches_iff, ← isIndex name]
    cases index.resolve name with
    | none => simp
    | some target =>
      simp only [Option.some.injEq, exists_eq_left']
      rw [seq_eq_ok_iff, require_eq_ok_iff, require_eq_ok_iff, decide_eq_true_iff,
        Bool.not_eq_true']

end Schema

/-! ### Fields -/

namespace Node

theorem field?_eq_some_iff {field : Field} (distinct : (node.fields.map (·.name)).Nodup) :
    node.field? name = some field ↔ field ∈ node.fields ∧ field.name = name := by
  unfold field?
  generalize node.fields = fields at distinct ⊢
  induction fields with
  | nil => simp
  | cons first rest ih =>
    rw [List.map_cons, List.nodup_cons] at distinct
    obtain ⟨fresh, distinct⟩ := distinct
    by_cases same : first.name = name
    · have others : ∀ field ∈ rest, field.name ≠ name := by
        rintro field member rfl
        exact fresh (List.mem_map.mpr ⟨field, member, same.symm⟩)
      rw [List.find?_cons_of_pos (by simpa using same), Option.some.injEq]
      constructor
      · rintro rfl
        exact ⟨List.mem_cons_self, same⟩
      · rintro ⟨member, named⟩
        rcases List.mem_cons.mp member with rfl | later
        · rfl
        · exact absurd named (others field later)
    · rw [List.find?_cons_of_neg (by simpa using same), ih distinct, List.mem_cons]
      refine ⟨fun ⟨member, named⟩ => ⟨.inr member, named⟩, fun ⟨member, named⟩ => ⟨?_, named⟩⟩
      exact member.resolve_left fun equal => same (equal ▸ named)

theorem fieldType_eq_ok_iff {type : FieldType} (distinct : (node.fields.map (·.name)).Nodup) :
    node.fieldType name = .ok type ↔ ⟨name, type⟩ ∈ node.fields := by
  unfold fieldType
  cases found : node.field? name with
  | none =>
    have unknown : ∀ type, ⟨name, type⟩ ∉ node.fields := fun type member => by
      rw [(field?_eq_some_iff distinct).mpr ⟨member, rfl⟩] at found
      cases found
    exact ⟨nofun, fun member => absurd member (unknown type)⟩
  | some field =>
    obtain ⟨member, rfl⟩ := (field?_eq_some_iff distinct).mp found
    constructor
    · rintro ⟨⟩
      exact member
    · intro other
      have same := (field?_eq_some_iff distinct).mpr ⟨other, rfl⟩
      rw [Option.some.inj (found.symm.trans same)]

theorem hasField_iff (distinct : (node.fields.map (·.name)).Nodup) :
    node.HasField kind name ↔ ∃ type, node.fieldType name = .ok type ∧ kind type = true := by
  simp only [fieldType_eq_ok_iff distinct]
  constructor
  · rintro ⟨field, member, rfl, fits⟩
    exact ⟨field.type, member, fits⟩
  · rintro ⟨type, member, fits⟩
    exact ⟨⟨name, type⟩, member, rfl, fits⟩

end Node

/-! ### Programs -/

theorem checkDisplayable_eq_ok_iff (distinct : (node.fields.map (·.name)).Nodup) :
    checkDisplayable node name = .ok () ↔ node.HasField FieldType.isDisplayable name := by
  rw [checkDisplayable, bind_eq_ok_iff, Node.hasField_iff distinct]
  simp only [require_eq_ok_iff]

theorem checkOp_eq_ok_iff (distinct : (node.fields.map (·.name)).Nodup) :
    checkOp node bound op = .ok () ↔
      op.Fits node bound ∧ checkOps node true op.steps = .ok () := by
  cases op with
  | literal text => simp [checkOp, RenderOp.Fits, RenderOp.steps, checkOps]
  | field name =>
    simp [checkOp, RenderOp.Fits, RenderOp.steps, checkOps, checkDisplayable_eq_ok_iff distinct]
  | item => simp [checkOp, RenderOp.Fits, RenderOp.steps, checkOps, require_eq_ok_iff]
  | forEach name body separator =>
    rw [checkOp, bind_eq_ok_iff, RenderOp.Fits, RenderOp.steps, Node.hasField_iff distinct,
      ← exists_and_right]
    refine exists_congr fun type => ?_
    rw [seq_eq_ok_iff, require_eq_ok_iff, and_assoc]
  | ifPresent name body =>
    rw [checkOp, bind_eq_ok_iff, RenderOp.Fits, RenderOp.steps, Node.hasField_iff distinct,
      ← exists_and_right]
    refine exists_congr fun type => ?_
    rw [seq_eq_ok_iff, require_eq_ok_iff, and_assoc]

theorem checkOps_eq_ok_iff :
    checkOps node bound ops = .ok () ↔ ∀ op ∈ ops, checkOp node bound op = .ok () := by
  induction ops with
  | nil => simp [checkOps]
  | cons op rest ih => rw [checkOps, seq_eq_ok_iff, ih, List.forall_mem_cons]

theorem RenderOp.Occurs.fits (distinct : (node.fields.map (·.name)).Nodup) {inner : Bool}
    (occurs : Occurs bound ops op inner) (checked : checkOps node bound ops = .ok ()) :
    op.Fits node inner := by
  induction occurs with
  | here member =>
    exact ((checkOp_eq_ok_iff distinct).mp (checkOps_eq_ok_iff.mp checked _ member)).1
  | inside member _ ih =>
    exact ih ((checkOp_eq_ok_iff distinct).mp (checkOps_eq_ok_iff.mp checked _ member)).2

theorem RenderOp.Occurs.cons {inner : Bool} (occurs : Occurs bound ops op inner)
    (first : RenderOp) : Occurs bound (first :: ops) op inner := by
  cases occurs with
  | here member => exact .here (List.mem_cons_of_mem _ member)
  | inside member deeper => exact .inside (List.mem_cons_of_mem _ member) deeper

mutual

theorem checkOp_of_fits (node : Node) (distinct : (node.fields.map (·.name)).Nodup)
    (bound : Bool) (op : RenderOp) (fits : op.Fits node bound)
    (inside : ∀ other inner, RenderOp.Occurs true op.steps other inner → other.Fits node inner) :
    checkOp node bound op = .ok () :=
  (checkOp_eq_ok_iff distinct).mpr ⟨fits,
    match op with
    | .literal _ | .field _ | .item => by simp [RenderOp.steps, checkOps]
    | .forEach _ body _ => checkOps_of_fits node distinct true body inside
    | .ifPresent _ body => checkOps_of_fits node distinct true body inside⟩

theorem checkOps_of_fits (node : Node) (distinct : (node.fields.map (·.name)).Nodup)
    (bound : Bool) (ops : List RenderOp)
    (fits : ∀ op inner, RenderOp.Occurs bound ops op inner → op.Fits node inner) :
    checkOps node bound ops = .ok () :=
  match ops with
  | [] => by simp [checkOps]
  | op :: rest => by
    have first := checkOp_of_fits node distinct bound op (fits op bound (.here List.mem_cons_self))
      fun other inner occurs => fits other inner (.inside List.mem_cons_self occurs)
    have later := checkOps_of_fits node distinct bound rest fun other inner occurs =>
      fits other inner (occurs.cons op)
    rw [checkOps, seq_eq_ok_iff]
    exact ⟨first, later⟩

end

theorem checkRender_eq_ok_iff (distinct : (node.fields.map (·.name)).Nodup) :
    checkRender node = .ok () ↔ node.WellRendered := by
  unfold checkRender Node.WellRendered
  cases node.render with
  | template format args =>
    simp only [checkTemplate]
    cases Template.parse format with
    | error fault => simp
    | ok segments =>
      simp only [Except.ok.injEq, exists_eq_left']
      rw [seq_eq_ok_iff, require_eq_ok_iff, forM_eq_ok_iff, decide_eq_true_iff]
      simp only [checkDisplayable_eq_ok_iff distinct]
  | custom ops =>
    exact ⟨fun checked op bound occurs => occurs.fits distinct checked,
      checkOps_of_fits node distinct false ops⟩

end TreeSchema
