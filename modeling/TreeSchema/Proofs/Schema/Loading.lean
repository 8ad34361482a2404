import TreeSchema.Proofs.Json.Accepted
import TreeSchema.Proofs.Schema.Printing

/-!
Loaded schemas. What is read of a schema is printed with no more brackets than the budget it was
read with, whatever the text said in other ways or left out.
-/

namespace TreeSchema.Json.Document

variable {budget follow : Nat} {document : Document}

/-! ### Fields -/

theorem depth_le_of_fieldType {type : FieldType}
    (read : document.fieldType budget follow = .ok type) : type.toJson.depth ≤ budget := by
  refine weight_le_of_readChoice (fun type => type.toJson.depth) read ?_
  have one (inner : Nat) (name text : String) :
      (Value.object [(name, .string text)]).depth ≤ inner + 1 := by
    simp
  simp only [List.forall_mem_cons]
  refine ⟨rfl, rfl, ?_, ?_, ?_, ?_, nofun⟩
  · exact Content.bounds_of_map fun inner _ _ _ _ _ => one inner _ _
  · exact Content.bounds_of_map fun inner _ _ _ _ _ => one inner _ _
  · exact Content.bounds_of_map fun inner _ _ _ _ _ => one inner _ _
  · exact Content.bounds_of_map fun inner _ _ _ _ _ => one inner _ _

theorem depth_le_of_field {field : Field} (read : document.field budget = .ok field) :
    field.toJson.depth ≤ budget := by
  have type : field.type.toJson.depth + 1 ≤ budget := by
    refine weight_lt_of_readRecord (fun field => field.type.toJson.depth) "type" read ?_ ?_
    · simp only [List.forall_mem_cons]
      refine ⟨?_, ?_, nofun⟩
      · exact Slot.bounds_of_other (by decide) fun _ _ => rfl
      · exact Slot.bounds_of_own fun _ _ _ _ _ read _ => depth_le_of_fieldType read
    · simp
  simpa [Field.toJson] using type

/-! ### Rendering programs -/

theorem depth_le_of_ops {ops : List RenderOp}
    (each : ∀ inner < budget, ∀ follow (document : Document) op,
      document.op inner follow = .ok op → op.toJson.depth ≤ inner)
    (read : document.ops budget = .ok ops) :
    (Value.list (RenderOp.listToJson ops)).depth ≤ budget := by
  rw [Document.ops] at read
  rw [RenderOp.listToJson_eq_map]
  exact depth_le_of_readList (fun inner h follow document op read =>
    each inner h follow document op read) read

theorem depth_le_of_op {op : RenderOp} (read : document.op budget follow = .ok op) :
    op.toJson.depth ≤ budget := by
  -- The steps of a body are read with less than the budget of the step that has it.
  induction budget using Nat.strongRecOn generalizing document follow op with
  | _ budget ih =>
    have each : ∀ inner < budget, ∀ follow (document : Document) op,
        document.op inner follow = .ok op → op.toJson.depth ≤ inner :=
      fun inner h _ _ _ read => ih inner h read
    rw [Document.op] at read
    refine weight_le_of_readChoice (fun op => op.toJson.depth) read ?_
    simp only [List.forall_mem_cons]
    refine ⟨?_, ?_, rfl, ?_, ?_, nofun⟩
    · exact Content.bounds_of_map fun inner _ _ _ _ _ => by simp [RenderOp.toJson]
    · exact Content.bounds_of_map fun inner _ _ _ _ _ => by simp [RenderOp.toJson]
    · intro inner h follow document op read
      obtain ⟨block, filled, same⟩ := bind_eq_ok_iff.mp read
      obtain rfl := Except.ok.inj same
      have body : (Value.list (RenderOp.listToJson block.body)).depth + 1 ≤ inner := by
        refine weight_lt_of_readRecord
          (fun block : Block => (Value.list (RenderOp.listToJson block.body)).depth) "body" filled
          ?_ ?_
        · simp only [List.forall_mem_cons]
          refine ⟨?_, ?_, ?_, nofun⟩
          · exact Slot.bounds_of_other (by decide) fun _ _ => rfl
          · exact Slot.bounds_of_own fun _ _ _ _ _ read _ =>
              depth_le_of_ops (fun _ _ => each _ (by omega)) read
          · exact Slot.bounds_of_other (by decide) fun _ _ => rfl
        · simp
      simpa [RenderOp.toJson] using body
    · intro inner h follow document op read
      obtain ⟨block, filled, same⟩ := bind_eq_ok_iff.mp read
      obtain rfl := Except.ok.inj same
      have body : (Value.list (RenderOp.listToJson block.body)).depth + 1 ≤ inner := by
        refine weight_lt_of_readRecord
          (fun block : Block => (Value.list (RenderOp.listToJson block.body)).depth) "then" filled
          ?_ ?_
        · simp only [List.forall_mem_cons]
          refine ⟨?_, ?_, nofun⟩
          · exact Slot.bounds_of_other (by decide) fun _ _ => rfl
          · exact Slot.bounds_of_own fun _ _ _ _ _ read _ =>
              depth_le_of_ops (fun _ _ => each _ (by omega)) read
        · simp
      simpa [RenderOp.toJson] using body

theorem depth_of_render (render : Render) : 2 ≤ render.toJson.depth := by
  cases render <;> simp [Render.toJson]

theorem depth_le_of_render {render : Render} (read : document.render budget follow = .ok render) :
    render.toJson.depth ≤ budget := by
  refine weight_le_of_readChoice (fun render => render.toJson.depth) read ?_
  simp only [List.forall_mem_cons]
  refine ⟨?_, ?_, nofun⟩
  · intro inner h follow document render read
    obtain ⟨template, filled, same⟩ := bind_eq_ok_iff.mp read
    obtain rfl := Except.ok.inj same
    have args : (Value.list (template.args.map .string)).depth + 1 ≤ inner := by
      refine weight_lt_of_readRecord
        (fun template : Format => (Value.list (template.args.map .string)).depth) "args" filled
        ?_ ?_
      · simp only [List.forall_mem_cons]
        refine ⟨?_, ?_, nofun⟩
        · exact Slot.bounds_of_other (by decide) fun _ _ => rfl
        · exact Slot.bounds_of_own fun _ _ _ _ _ read _ =>
            depth_le_of_readList (fun _ _ _ _ _ _ => Nat.zero_le _) read
      · simp [textsSlot]
    simpa [Render.toJson] using args
  · exact Content.bounds_of_map fun inner h follow document ops read => by
      have ops := depth_le_of_ops (fun _ _ _ _ _ => depth_le_of_op) read
      simpa [Render.toJson] using ops

/-! ### Declarations -/

theorem depth_le_of_node {node : Node} (read : document.node budget = .ok node) :
    node.toJson.depth ≤ budget := by
  have render : node.render.toJson.depth + 1 ≤ budget := by
    refine weight_lt_of_readRecord (fun node => node.render.toJson.depth) "render" read ?_ ?_
    · simp only [List.forall_mem_cons]
      refine ⟨?_, ?_, ?_, ?_, nofun⟩
      · exact Slot.bounds_of_other (by decide) fun _ _ => rfl
      · exact Slot.bounds_of_other (by decide) fun _ _ => rfl
      · exact Slot.bounds_of_other (by decide) fun _ _ => rfl
      · exact Slot.bounds_of_own fun _ _ _ _ _ read _ => depth_le_of_render read
    · simp
  -- The fields may be left out, and are printed as an empty list then.
  have fields : (Value.list (node.fields.map Field.toJson)).depth + 1 ≤ budget := by
    refine weight_lt_of_readRecord
      (fun node => (Value.list (node.fields.map Field.toJson)).depth) "fields" read ?_ ?_
    · simp only [List.forall_mem_cons]
      refine ⟨?_, ?_, ?_, ?_, nofun⟩
      · exact Slot.bounds_of_other (by decide) fun _ _ => rfl
      · exact Slot.bounds_of_other (by decide) fun _ _ => rfl
      · exact Slot.bounds_of_own fun _ _ _ _ _ read _ =>
          depth_le_of_readList (fun _ _ _ _ _ => depth_le_of_field) read
      · exact Slot.bounds_of_other (by decide) fun _ _ => rfl
    · have least := depth_of_render node.render
      exact .inl (by simp [Node.new]; omega)
  simp only [Node.toJson, Value.depth, Value.membersDepth, Value.memberDepth] at fields ⊢
  omega

theorem depth_le_of_category {category : Category}
    (read : document.category budget = .ok category) : category.toJson.depth ≤ budget := by
  have nodes : (Value.list (category.nodes.map Node.toJson)).depth + 1 ≤ budget := by
    refine weight_lt_of_readRecord
      (fun category => (Value.list (category.nodes.map Node.toJson)).depth) "nodes" read ?_ ?_
    · simp only [List.forall_mem_cons]
      refine ⟨?_, ?_, ?_, nofun⟩
      · exact Slot.bounds_of_other (by decide) fun _ _ => rfl
      · exact Slot.bounds_of_other (by decide) fun _ _ => rfl
      · exact Slot.bounds_of_own fun _ _ _ _ _ read _ =>
          depth_le_of_readList (fun _ _ _ _ _ => depth_le_of_node) read
    · simp
  obtain ⟨name, module, list⟩ := category
  cases module <;> simpa [Category.toJson] using nodes

theorem depth_le_of_schema {schema : Schema} (read : document.schema budget = .ok schema) :
    schema.toJson.depth ≤ budget := by
  have categories : (Value.list (schema.categories.map Category.toJson)).depth + 1 ≤ budget := by
    refine weight_lt_of_readRecord
      (fun schema => (Value.list (schema.categories.map Category.toJson)).depth) "categories" read
      ?_ ?_
    · simp only [List.forall_mem_cons]
      refine ⟨?_, ?_, nofun⟩
      · exact Slot.bounds_of_other (by decide) fun _ _ => rfl
      · exact Slot.bounds_of_own fun _ _ _ _ _ read _ =>
          depth_le_of_readList (fun _ _ _ _ _ => depth_le_of_category) read
    · simp
  have collaborators : schema.collaborators.toJson.depth = 1 := by
    simp [Collaborators.toJson]
  simp only [Schema.toJson, Value.depth, Value.membersDepth, Value.memberDepth, collaborators]
    at categories ⊢
  omega

end TreeSchema.Json.Document
