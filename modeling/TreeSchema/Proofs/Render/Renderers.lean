import TreeSchema.Proofs.Render.Reading

/-!
Running the renderers of a unit from their lines. Every body that is emitted can be read back, and
what is read writes what the rendering program of the node means.
-/

namespace TreeSchema

open Source

variable {node : Node} {values : Values} {record : Record} {collaborators : Collaborators}
  {lexeme name : String} {args : List String} {operand : Operand} {front back : List Statement}

/-- What the lines of a body write, if they can be read. -/
def runLines? (lexeme : String) (values : Values) (lines : List String) : Option String :=
  (readBody? lexeme lines).bind (·.run? values)

/-- The lines of a node's renderer, around those of its body. -/
def Node.displayLines (node : Node) (body : List String) : List String :=
  ["impl fmt::Display for " ++ node.name ++ (if node.needsLifetime then "<'_>" else "") ++ " \x7b",
    "    fn fmt(&self, f: &mut fmt::Formatter<'_>) -> fmt::Result \x7b"] ++
  body ++ ["    \x7d", "\x7d", ""]

theorem Source.Record.IsOf.renderer_eq (isOf : record.IsOf collaborators node) :
    record.renderer lexeme = node.displayLines (record.body.lines lexeme) := by
  rw [Record.renderer, Record.rendererHead, isOf.name, isOf.lifetime]
  rfl

/-! ### Programs -/

theorem Source.allLegible_append :
    AllLegible (front ++ back) ↔ AllLegible front ∧ AllLegible back := by
  induction front with
  | nil => simp [AllLegible]
  | cons statement rest ih => rw [List.cons_append, AllLegible, ih, AllLegible, and_assoc]

theorem allLegible_writeText (text : String) :
    AllLegible (if text.isEmpty then [] else [.writeText text]) := by
  split
  · trivial
  · exact ⟨trivial, trivial⟩

mutual

/-- At any depth, the statements of a step name fields only. -/
theorem legible_opStatements {reserved : List String} (node : Node)
    (named : node.WellNamed reserved) (kind : Option ItemKind) (op : RenderOp)
    (checked : checkOp node kind.isSome op = .ok ()) (statements : List Statement)
    (emitted : opStatements? node kind op = some statements) : AllLegible statements := by
  obtain ⟨fits, inside⟩ := (checkOp_eq_ok_iff named.distinct).mp checked
  match op with
  | .literal text =>
    cases emitted
    exact allLegible_writeText text
  | .field name =>
    obtain ⟨field, -, rfl⟩ := exists_of_opStatements?_field emitted
    have isName : PlainName name := named.inName fits
    split
    · exact ⟨isName, trivial⟩
    · exact ⟨isName, trivial⟩
  | .item =>
    match kind with
    | none => cases emitted
    | some .token | some .node =>
      cases emitted
      exact ⟨trivial, trivial⟩
  | .forEach name body separator =>
    obtain ⟨inner, emittedInner, rfl⟩ := exists_of_opStatements?_forEach emitted
    have legible := legible_statements node named (some .node) body inside inner emittedInner
    exact ⟨⟨named.inName fits, allLegible_append.mpr ⟨legible, allLegible_writeText separator⟩⟩,
      trivial⟩
  | .ifPresent name body =>
    obtain ⟨bound, inner, -, emittedInner, rfl⟩ := exists_of_opStatements?_ifPresent emitted
    have legible := legible_statements node named (some bound) body inside inner emittedInner
    exact ⟨⟨named.inName fits, legible⟩, trivial⟩

theorem legible_statements {reserved : List String} (node : Node)
    (named : node.WellNamed reserved) (kind : Option ItemKind) (ops : List RenderOp)
    (checked : checkOps node kind.isSome ops = .ok ()) (statements : List Statement)
    (emitted : statements? node kind ops = some statements) : AllLegible statements := by
  match ops with
  | [] =>
    cases emitted
    trivial
  | op :: rest =>
    rw [checkOps, seq_eq_ok_iff] at checked
    obtain ⟨first, others, emittedFirst, emittedOthers, rfl⟩ := exists_of_statements?_cons emitted
    have here := legible_opStatements node named kind op checked.1 first emittedFirst
    have later := legible_statements node named kind rest checked.2 others emittedOthers
    exact allLegible_append.mpr ⟨here, later⟩

end

/-! ### Bodies -/

theorem field_of_operand? (emitted : operand? node name = some operand) : operand.field = name := by
  obtain ⟨field, -, same⟩ := Option.bind_eq_some_iff.mp emitted
  split at same <;> cases same <;> rfl

theorem legible_format {reserved : List String} (named : node.WellNamed reserved) {format : String}
    {segments : List Segment} (parsed : Template.parse format = .ok segments)
    (count : Template.placeholders segments = args.length)
    (fits : ∀ arg ∈ args, node.HasField FieldType.isDisplayable arg) (nonempty : args ≠ [])
    {operands : List Operand} (emitted : args.mapM (operand? node) = some operands) :
    (Body.format format operands).Legible := by
  have each := mapM_eq_some_iff_forall₂.mp emitted
  have fields : args = operands.map (·.field) := by
    rw [← List.forall₂_eq_eq_eq, List.forall₂_map_right_iff]
    exact each.imp fun _ _ shown => (field_of_operand? shown).symm
  obtain ⟨pieces, read, rfl⟩ := map_eq_ok_iff.mp parsed
  refine ⟨?_, fun operand member => ?_, pieces, formatPieces?_of_pieces read, ?_⟩
  · rintro rfl
    exact nonempty fields
  · have among : operand.field ∈ args := fields ▸ List.mem_map_of_mem member
    exact named.inName (fits _ among)
  · rw [← Template.placeholders_join, count, each.length_eq]

/-- The body of a renderer that is emitted can be read. -/
theorem legible_body {reserved : List String} (named : node.WellNamed reserved)
    (checked : checkRender node = .ok ()) {body : Body} (emitted : node.body? = some body) :
    body.Legible := by
  have wellRendered := (checkRender_eq_ok_iff named.distinct).mp checked
  unfold Node.body? at emitted
  unfold checkRender at checked
  unfold Node.WellRendered at wellRendered
  cases render : node.render with
  | template format args =>
    simp only [render] at emitted wellRendered
    obtain ⟨segments, parsed, count, fits⟩ := wellRendered
    rw [templateBody?, parsed] at emitted
    cases args with
    | nil =>
      cases emitted
      trivial
    | cons arg rest =>
      obtain ⟨operands, shown, rfl⟩ := Option.map_eq_some_iff.mp emitted
      exact legible_format named parsed count fits (List.cons_ne_nil _ _) shown
  | custom ops =>
    simp only [render] at emitted checked
    obtain ⟨statements, written, same⟩ := Option.bind_eq_some_iff.mp emitted
    have legible := legible_statements node named none ops checked statements written
    obtain rfl := Option.some.inj same
    show AllLegible _
    split
    · exact ⟨trivial, legible⟩
    · exact legible

/-- Running the lines of an emitted body ends, and writes what the record shows. -/
theorem Schema.exists_runLines? {schema : Schema} {index : Index}
    (checked : schema.check = .ok index) {category : Category}
    (among : category ∈ schema.categories) (member : node ∈ category.nodes) {body : Body}
    (emitted : node.body? = some body) (lexeme : String) (conform : values.Conform node.fields) :
    ∃ text, node.meaning? values = some text ∧
      runLines? lexeme values (body.lines lexeme) = some text := by
  have wellFormed := wellFormed_of_check checked
  have named := (wellFormed.categories category among).nodes node member
  have rendered := (checkRender_eq_ok_iff named.distinct).mpr
    (wellFormed.renders category among node member)
  obtain ⟨other, same, shows⟩ := exists_body?_of_check checked among member
  obtain rfl := Option.some.inj (emitted.symm.trans same)
  obtain ⟨text, meaning, run⟩ := shows values conform
  refine ⟨text, meaning, ?_⟩
  rw [runLines?, readBody?_lines (legible_body named rendered emitted), Option.bind_some, run]

namespace Schema

/-- The renderer of every node of an accepted schema stands in the unit of its category. For every
record it runs to its end and writes exactly what the record shows. -/
theorem units_runLines {schema : Schema} {index : Index} (checked : schema.check = .ok index) :
    ∃ units, schema.units = .ok units ∧
      ∀ (c : Nat) (category : Category), schema.categories[c]? = some category →
        ∃ unit, units[c]? = some unit ∧ ∀ node ∈ category.nodes,
          ∃ lines, unit.HasLines (node.displayLines lines) ∧
            ∀ values : Values, values.Conform node.fields →
              ∃ text, node.meaning? values = some text ∧
                runLines? schema.collaborators.lexeme values lines = some text := by
  obtain ⟨units, made, renderers⟩ := exists_renderers checked
  refine ⟨units, made, fun c category found => ?_⟩
  obtain ⟨unit, place, holds⟩ := renderers c category found
  refine ⟨unit, place, fun node member => ?_⟩
  obtain ⟨record, isRecord, lines⟩ := holds node member
  rw [isRecord.renderer_eq] at lines
  exact ⟨_, lines, fun values conform =>
    exists_runLines? checked (List.mem_of_getElem? found) member isRecord.body _ conform⟩

/-- Inside a loop a block binds its own item, and after the block the loop's item is shown. -/
theorem units_runLines_of_nested :
    let node : Node := ⟨"Call", "Call",
      [⟨"callee", .token⟩, ⟨"args", .sequence "Expr"⟩, ⟨"mark", .optionalToken⟩],
      .custom [.field "callee", .forEach "args" [.ifPresent "mark" [.item], .item] ", ",
        .ifPresent "mark" [.item]]⟩
    let schema : Schema := ⟨{}, [⟨"Expr", none, [node]⟩]⟩
    let values : Values := [("callee", .one (.token "f")),
      ("args", .sequence [.display "x", .display "y"]), ("mark", .optional (some (.token "!")))]
    ∃ index units unit lines, schema.check = .ok index ∧ schema.units = .ok units ∧
      units[0]? = some unit ∧ values.Conform node.fields ∧
      unit.HasLines (node.displayLines lines) ∧
      runLines? schema.collaborators.lexeme values lines = some "f!x, !y, !" := by
  intro node schema values
  have checked : schema.check = .ok ⟨[("Call", .record 0 0), ("Expr", .union 0)]⟩ :=
    check_eq_ok_of_flat (by decide +kernel) (by decide +kernel) (by decide +kernel)
  have conform : values.Conform node.fields :=
    .cons ⟨rfl, .token "f"⟩ (.cons ⟨rfl, .sequence "Expr" ["x", "y"]⟩
      (.cons ⟨rfl, .optionalToken (some "!")⟩ .nil))
  obtain ⟨units, made, each⟩ := units_runLines checked
  obtain ⟨unit, place, holds⟩ := each 0 _ rfl
  obtain ⟨lines, stands, shows⟩ := holds node List.mem_cons_self
  obtain ⟨text, meaning, run⟩ := shows values conform
  have expected : node.meaning? values = some "f!x, !y, !" := by
    decide +kernel
  rw [Option.some.inj (meaning.symm.trans expected)] at run
  exact ⟨_, units, unit, lines, checked, made, place, conform, stands, run⟩

end Schema

end TreeSchema
