import TreeSchema.Proofs.Json.Reading
import TreeSchema.Schema.Json

/-!
Printed schemas. Each part of a schema is read from its JSON as it was, if the budget allows for the
brackets of the JSON.
-/

namespace TreeSchema

open Json Json.Document

theorem RenderOp.listToJson_eq_map (ops : List RenderOp) :
    listToJson ops = ops.map toJson := by
  induction ops with
  | nil => rfl
  | cons op rest ih => rw [listToJson, ih, List.map_cons]

namespace Json.Document

variable {budget inner : Nat} {h : inner < budget} {ρ : Type} {slots : List (Slot budget ρ)}
  {name : String}

theorem sets_textSlot {required : Bool} {set : String → ρ → ρ}
    (found : slots.find? (·.name = name) = some (textSlot name required set)) (text : String) :
    Sets slots inner h (name, .string text) (set text) :=
  ⟨_, found, fun _ => (takes_readText inner text).map set⟩

theorem sets_textsSlot {set : List String → ρ → ρ}
    (found : slots.find? (·.name = name) = some (textsSlot name set)) (texts : List String) :
    Sets slots inner h (name, .list (texts.map .string)) (set texts) :=
  ⟨_, found, fun _ => (takes_readList fun _ _ _ text _ => takes_readText _ text).map set⟩

variable (budget : Nat) (follow : Nat)

theorem takes_collaborators (collaborators : Collaborators) :
    Takes (Document.collaborators budget) budget collaborators.toJson collaborators := by
  refine takes_readRecord (fun inner h =>
    .cons (sets_textSlot rfl collaborators.token) <|
    .cons (sets_textSlot rfl collaborators.lexeme) <|
    .cons (sets_textSlot rfl collaborators.atom) <|
    .cons (sets_textSlot rfl collaborators.arena) <|
    .cons (sets_textSlot rfl collaborators.sequence) <|
    .cons (sets_textSlot rfl collaborators.siblingPrefix) .nil) ?_ ?_ rfl
  · simp
  · simp [textSlot]

theorem takes_primitive (primitive : Primitive) :
    Takes (Document.primitive budget follow) budget (.string primitive.text) primitive := by
  cases primitive with
  | f64 | i64 | bool | atom => exact takes_readChoice_name rfl

theorem takes_fieldType (type : FieldType) :
    Takes (Document.fieldType budget follow) budget type.toJson type := by
  cases type with
  | token | optionalToken => exact takes_readChoice_name rfl
  | primitive primitive =>
    exact takes_readChoice rfl fun inner _ follow => (takes_primitive inner follow primitive).map _
  | node target | optionalNode target | sequence target =>
    exact takes_readChoice rfl fun inner _ _ => (takes_readText inner target).map _

theorem takes_field (field : Field) :
    Takes (Document.field budget) budget field.toJson field := by
  refine takes_readRecord (fun inner h =>
    .cons (sets_textSlot rfl field.name) <|
    .cons ⟨_, rfl, fun follow => (takes_fieldType inner follow field.type).map _⟩ .nil) ?_ ?_ rfl
  · simp
  · simp [textSlot]

/-! ### Rendering programs -/

theorem takes_ops {ops : List RenderOp}
    (takes : ∀ op ∈ ops, ∀ budget follow, Takes (Document.op budget follow) budget op.toJson op) :
    Takes (Document.ops budget) budget (.list (RenderOp.listToJson ops)) ops := by
  intro document shows
  rw [RenderOp.listToJson_eq_map] at shows ⊢
  rw [Document.ops]
  exact takes_readList (fun inner _ follow op member => takes op member inner follow) document shows

mutual

theorem takes_op : (op : RenderOp) → (budget follow : Nat) →
    Takes (Document.op budget follow) budget op.toJson op
  | .literal text, budget, follow => by
    intro document shows
    rw [Document.op]
    refine takes_readChoice rfl (fun inner _ _ => ?_) document shows
    exact (takes_readText inner text).map _
  | .field name, budget, follow => by
    intro document shows
    rw [Document.op]
    refine takes_readChoice rfl (fun inner _ _ => ?_) document shows
    exact (takes_readText inner name).map _
  | .item, budget, follow => by
    intro document shows
    rw [Document.op]
    exact takes_readChoice_name rfl document shows
  | .forEach source body separator, budget, follow => by
    intro document shows
    rw [Document.op]
    refine takes_readChoice rfl (fun inner _ _ document shows => ?_) document shows
    refine Within.bind_ok (takes_readRecord (fun inner h =>
      .cons (sets_textSlot rfl source) <|
      .cons ⟨_, rfl, fun _ => (takes_ops inner (takes_each_op body)).map _⟩ <|
      .cons (sets_textSlot rfl separator) .nil) ?_ ?_ rfl document shows) rfl
    · simp
    · simp [textSlot]
  | .ifPresent source body, budget, follow => by
    intro document shows
    rw [Document.op]
    refine takes_readChoice rfl (fun inner _ _ document shows => ?_) document shows
    refine Within.bind_ok (takes_readRecord (fun inner h =>
      .cons (sets_textSlot rfl source) <|
      .cons ⟨_, rfl, fun _ => (takes_ops inner (takes_each_op body)).map _⟩ .nil)
      ?_ ?_ rfl document shows) rfl
    · simp
    · simp [textSlot]

theorem takes_each_op : (ops : List RenderOp) → ∀ op ∈ ops, ∀ budget follow,
    Takes (Document.op budget follow) budget op.toJson op
  | [] => fun _ member => absurd member List.not_mem_nil
  | op :: rest => List.forall_mem_cons.mpr ⟨takes_op op, takes_each_op rest⟩

end

theorem takes_render (render : Render) :
    Takes (Document.render budget follow) budget render.toJson render := by
  cases render with
  | template format args =>
    refine takes_readChoice rfl fun inner _ _ document shows => ?_
    refine Within.bind_ok (takes_readRecord (fun inner h =>
      .cons (sets_textSlot rfl format) <|
      .cons (sets_textsSlot rfl args) .nil) ?_ ?_ rfl document shows) rfl
    · simp
    · simp [textSlot, textsSlot]
  | custom ops =>
    exact takes_readChoice rfl fun inner _ _ => (takes_ops inner (takes_each_op ops)).map _

/-! ### Declarations -/

theorem takes_node (node : Node) : Takes (Document.node budget) budget node.toJson node := by
  refine takes_readRecord (fun inner h =>
    .cons (sets_textSlot rfl node.name) <|
    .cons (sets_textSlot rfl node.tag) <|
    .cons ⟨_, rfl, fun _ =>
      (takes_readList fun inner _ _ field _ => takes_field inner field).map _⟩ <|
    .cons ⟨_, rfl, fun follow => (takes_render inner follow node.render).map _⟩ .nil) ?_ ?_ rfl
  · simp
  · simp [textSlot]

theorem takes_category (category : Category) :
    Takes (Document.category budget) budget category.toJson category := by
  obtain ⟨name, module, nodes⟩ := category
  have list (inner : Nat) : Takes
      (fun document => readList inner (fun inner _ _ item => item.node inner) document) inner
      (.list (nodes.map Node.toJson)) nodes :=
    takes_readList fun inner _ _ node _ => takes_node inner node
  cases module with
  | none =>
    refine takes_readRecord (fun inner h =>
      .cons (sets_textSlot rfl name) <|
      .cons ⟨_, rfl, fun _ => (list inner).map _⟩ .nil) ?_ ?_ rfl
    · simp
    · simp [textSlot]
  | some module =>
    refine takes_readRecord (fun inner h =>
      .cons (sets_textSlot rfl name) <|
      .cons ⟨_, rfl, fun _ => (takes_readText? inner module).map _⟩ <|
      .cons ⟨_, rfl, fun _ => (list inner).map _⟩ .nil) ?_ ?_ rfl
    · simp
    · simp [textSlot]

theorem takes_schema (schema : Schema) :
    Takes (Document.schema budget) budget schema.toJson schema := by
  refine takes_readRecord (fun inner h =>
    .cons ⟨_, rfl, fun _ => (takes_collaborators inner schema.collaborators).map _⟩ <|
    .cons ⟨_, rfl, fun _ =>
      (takes_readList fun inner _ _ category _ => takes_category inner category).map _⟩ .nil)
    ?_ ?_ rfl
  · simp
  · simp

end Json.Document

end TreeSchema
