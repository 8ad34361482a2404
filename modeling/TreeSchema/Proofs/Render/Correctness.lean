import TreeSchema.Proofs.Render.Programs
import TreeSchema.Proofs.Render.Templates
import TreeSchema.Proofs.Schema.Acceptance

/-!
The renderers of a schema that passes the check write what its rendering programs mean.
-/

namespace TreeSchema

open Source

variable {node : Node} {values : Values} {name : String} {args : List String}

/-! ### Templates -/

theorem exists_operand? (distinct : (node.fields.map (·.name)).Nodup)
    (fits : node.HasField FieldType.isDisplayable name) :
    ∃ operand, operand? node name = some operand ∧
      ∀ values : Values, values.Conform node.fields →
        ∃ text, values.text? name = some text ∧ operand.run? values = some text := by
  obtain ⟨field, found, displayable⟩ := fits.exists_field? distinct
  refine ⟨if field.type = .token then .lexeme name else .value name, ?_, fun values conform => ?_⟩
  · rw [operand?, found, Option.bind_eq_bind, Option.bind_some]
    split
    next token => rw [if_pos token]; rfl
    next other => rw [if_neg other]; rfl
  · obtain ⟨value, known, holds⟩ := conform.lookup found
    rw [Values.text?, known]
    generalize field.type = type at displayable holds
    cases holds with
    | token lexeme =>
      exact ⟨lexeme, rfl, by simp [Operand.run?, Place.item?, known, lexeme?]⟩
    | primitive kind text | node target text =>
      exact ⟨text, rfl, by simp [Operand.run?, Place.item?, known, display?]⟩
    | optionalToken | optionalNode | sequence => cases displayable

theorem exists_operands? (distinct : (node.fields.map (·.name)).Nodup)
    (fits : ∀ arg ∈ args, node.HasField FieldType.isDisplayable arg) :
    ∃ operands, args.mapM (operand? node) = some operands ∧
      ∀ values : Values, values.Conform node.fields →
        ∃ texts, args.mapM values.text? = some texts ∧ texts.length = args.length ∧
          operands.mapM (·.run? values) = some texts := by
  induction args with
  | nil => exact ⟨[], rfl, fun _ _ => ⟨[], rfl, rfl, rfl⟩⟩
  | cons arg rest ih =>
    obtain ⟨first, rest'⟩ := List.forall_mem_cons.mp fits
    obtain ⟨operand, emitted, shows⟩ := exists_operand? distinct first
    obtain ⟨operands, later, showAll⟩ := ih rest'
    refine ⟨operand :: operands, by simp [emitted, later], fun values conform => ?_⟩
    obtain ⟨text, known, run⟩ := shows values conform
    obtain ⟨texts, knownAll, length, runAll⟩ := showAll values conform
    exact ⟨text :: texts, by simp [known, knownAll], congrArg (· + 1) length,
      by simp [run, runAll]⟩

theorem exists_templateBody? (distinct : (node.fields.map (·.name)).Nodup) {format : String}
    {segments : List Segment} (parsed : Template.parse format = .ok segments)
    (count : Template.placeholders segments = args.length)
    (fits : ∀ arg ∈ args, node.HasField FieldType.isDisplayable arg) :
    ∃ body, templateBody? node format args = some body ∧
      ∀ values : Values, values.Conform node.fields →
        ∃ texts written, args.mapM values.text? = some texts ∧
          Template.fill format.toList texts = some written ∧
          body.run? values = some (String.ofList written) := by
  obtain ⟨pieces, read, rfl⟩ := map_eq_ok_iff.mp parsed
  have pieces? := formatPieces?_of_pieces read
  rw [Template.placeholders_join] at count
  unfold templateBody?
  rw [parsed]
  obtain ⟨operands, emitted, showAll⟩ := exists_operands? distinct fits
  cases args with
  | nil =>
    refine ⟨_, rfl, fun values _ =>
      ⟨[], (Template.text (Template.join pieces)).toList, rfl, ?_, ?_⟩⟩
    · rw [Template.fill_eq_writePieces? pieces?, Template.writePieces?_nil count]
    · rw [Body.run?, String.ofList_toList]
  | cons arg rest =>
    refine ⟨.format format operands, by simp [emitted], fun values conform => ?_⟩
    obtain ⟨texts, known, length, run⟩ := showAll values conform
    obtain ⟨written, fills⟩ := Template.exists_writePieces? (count.trans length.symm)
    refine ⟨texts, written, known, by rw [Template.fill_eq_writePieces? pieces?, fills], ?_⟩
    simp [Body.run?, pieces?, run, fills]

/-! ### Bodies -/

theorem exists_body? (distinct : (node.fields.map (·.name)).Nodup)
    (checked : checkRender node = .ok ()) :
    ∃ body, node.body? = some body ∧
      ∀ values : Values, values.Conform node.fields →
        ∃ text, node.meaning? values = some text ∧ body.run? values = some text := by
  have wellRendered := (checkRender_eq_ok_iff distinct).mp checked
  unfold checkRender at checked
  unfold Node.WellRendered at wellRendered
  unfold Node.body? Node.meaning?
  cases render : node.render with
  | template format args =>
    simp only [render] at wellRendered
    obtain ⟨segments, parsed, count, fits⟩ := wellRendered
    obtain ⟨body, emitted, shows⟩ := exists_templateBody? distinct parsed count fits
    refine ⟨body, emitted, fun values conform => ?_⟩
    obtain ⟨texts, written, known, fills, run⟩ := shows values conform
    exact ⟨String.ofList written, by simp [known, fills], run⟩
  | custom ops =>
    simp only [render] at checked
    obtain ⟨statements, emitted⟩ := exists_statements? distinct none ops checked
    refine ⟨.block (if ops.isEmpty then .touch :: statements else statements), by simp [emitted],
      fun values conform => ?_⟩
    obtain ⟨text, meaning, run⟩ := agree_ops distinct conform none none none .none ops
      (fun _ => rfl) checked statements emitted
    refine ⟨text, meaning, ?_⟩
    rw [Body.run?]
    split
    next =>
      have touched : runAll? values none [.touch] = some "" := runAll?_singleton
      exact runAll?_append touched run
    next => exact run

namespace Schema

theorem exists_body?_of_check {schema : Schema} {index : Index}
    (checked : schema.check = .ok index) {category : Category}
    (among : category ∈ schema.categories) (member : node ∈ category.nodes) :
    ∃ body, node.body? = some body ∧
      ∀ values : Values, values.Conform node.fields →
        ∃ text, node.meaning? values = some text ∧ body.run? values = some text := by
  have wellFormed := wellFormed_of_check checked
  have distinct := ((wellFormed.categories category among).nodes node member).distinct
  exact exists_body? distinct
    ((checkRender_eq_ok_iff distinct).mpr (wellFormed.renders category among node member))

end Schema

end TreeSchema
