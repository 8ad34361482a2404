import TreeSchema.Proofs.Render.Blocks

/-!
The name of the item in renderers. Blocks introduce it exactly if they use it, and each use stands
for the innermost block around it, whatever is nested in what.
-/

namespace TreeSchema

open Source Scoping

variable {node : Node} {lexeme name line : String} {depth : Nat} {statements : List Statement}

/-! ### Statements -/

theorem itemMarks_text (text : String) :
    itemMarks lexeme (statementLines lexeme depth
      (if text.isEmpty then [] else [.writeText text])) = [] := by
  split
  next => rfl
  next =>
    rw [statementLines_singleton, Statement.lines, itemMarks_singleton (by simp)]
    exact codeMarks_writeText text

/-- The lines of a block are its head, what is inside it, and the line that closes it. -/
theorem itemMarks_block {head : Mark} (starts : line.toList.head? ≠ some ' ')
    (opens : codeMarks lexeme line.toList = [head]) (body : List Statement) :
    itemMarks lexeme (indented depth line :: statementLines lexeme (depth + 1) body ++
      [indented depth "\x7d"]) =
      head :: (itemMarks lexeme (statementLines lexeme (depth + 1) body) ++ [.closes]) := by
  have closing : codeMarks lexeme "\x7d".toList = [.closes] := if_pos (by decide)
  rw [List.cons_append, itemMarks_cons starts, opens, itemMarks_append,
    itemMarks_singleton (by decide), closing]
  rfl

theorem itemMarks_field {kind : Option ItemKind} (letters : ∀ c ∈ name.toList, inName c = true)
    (emitted : opStatements? node kind (.field name) = some statements) :
    itemMarks lexeme (statementLines lexeme depth statements) = [] := by
  obtain ⟨field, -, rfl⟩ := exists_of_opStatements?_field emitted
  rw [statementLines_singleton]
  split
  next =>
    have line : codeMarks lexeme ("f.write_str(self." ++ name ++ "." ++ lexeme ++ "())?;").toList =
        [] :=
      codeMarks_writeLexeme_field letters
    rw [Statement.lines, itemMarks_singleton (by simp [Place.text])]
    simpa [Place.text, String.append_assoc] using line
  next =>
    have line : codeMarks lexeme ("fmt::Display::fmt(&self." ++ name ++ ", f)?;").toList = [] :=
      codeMarks_display_field letters
    rw [Statement.lines, itemMarks_singleton (by simp [Place.reference])]
    simpa [Place.reference, String.append_assoc] using line

/-- How an item is written that is bound to a token or a node. -/
def ItemKind.way : ItemKind → Way
  | .token => .accessor
  | .node => .display

theorem itemMarks_item (kind : ItemKind)
    (emitted : opStatements? node (some kind) .item = some statements) :
    itemMarks lexeme (statementLines lexeme depth statements) = [.use kind.way] := by
  cases kind with
  | token =>
    cases emitted
    rw [statementLines_singleton, Statement.lines, itemMarks_singleton (by simp [Place.text])]
    exact codeMarks_writeLexeme_item
  | node =>
    cases emitted
    rw [statementLines_singleton, Statement.lines, itemMarks_singleton (by simp [Place.reference])]
    exact codeMarks_display_item

theorem way_of_boundBy? {kind : ItemKind} (known : boundBy? node name = some kind) :
    kind.way = node.wayIn (.present name) := by
  obtain ⟨field, found, binds⟩ := Option.bind_eq_some_iff.mp known
  rw [Node.wayIn, found, Option.map_some]
  cases type : field.type <;> rw [type] at binds <;> cases binds <;> rfl

/-! ### Programs

The way of the innermost step around goes along: it is the way of what a use outside of all further
blocks stands for. -/

mutual

/-- At any depth, the lines of a step treat the name of the item as the step does. -/
theorem traces_opStatements {reserved : List String} (node : Node)
    (named : node.WellNamed reserved) (depth : Nat) (kind : Option ItemKind) (way : Way)
    (fits : ∀ bound, kind = some bound → bound.way = way) (op : RenderOp)
    (checked : checkOp node kind.isSome op = .ok ()) (statements : List Statement)
    (emitted : opStatements? node kind op = some statements) :
    Traces node way [op] (itemMarks lexeme (statementLines lexeme depth statements)) := by
  obtain ⟨hasFields, inside⟩ := (checkOp_eq_ok_iff named.distinct).mp checked
  match op with
  | .literal text =>
    cases emitted
    rw [itemMarks_text]
    exact .literal text
  | .field name =>
    rw [itemMarks_field (named.inName hasFields) emitted]
    exact .field name
  | .item =>
    obtain ⟨bound, rfl⟩ := Option.isSome_iff_exists.mp hasFields
    rw [itemMarks_item bound emitted, fits bound rfl]
    exact .item
  | .forEach name body separator =>
    obtain ⟨inner, emittedInner, rfl⟩ := exists_of_opStatements?_forEach emitted
    have traces := traces_statements node named (depth + 1) (some .node) .display
      (fun bound known => Option.some.inj known ▸ rfl) body inside inner emittedInner
    rw [statementLines_singleton, Statement.lines,
      itemMarks_block (by simp) (codeMarks_for _ (named.inName hasFields)), statementLines_append,
      itemMarks_append, itemMarks_text, List.append_nil]
    exact .forEach traces
  | .ifPresent name body =>
    obtain ⟨bound, inner, known, emittedInner, rfl⟩ := exists_of_opStatements?_ifPresent emitted
    have traces := traces_statements node named (depth + 1) (some bound)
      (node.wayIn (.present name)) (fun kind same => Option.some.inj same ▸ way_of_boundBy? known)
      body inside inner emittedInner
    rw [statementLines_singleton, Statement.lines,
      itemMarks_block (by split <;> simp) (codeMarks_if _ (named.inName hasFields))]
    exact .ifPresent traces

theorem traces_statements {reserved : List String} (node : Node)
    (named : node.WellNamed reserved) (depth : Nat) (kind : Option ItemKind) (way : Way)
    (fits : ∀ bound, kind = some bound → bound.way = way) (ops : List RenderOp)
    (checked : checkOps node kind.isSome ops = .ok ()) (statements : List Statement)
    (emitted : statements? node kind ops = some statements) :
    Traces node way ops (itemMarks lexeme (statementLines lexeme depth statements)) := by
  match ops with
  | [] =>
    cases emitted
    exact .nil
  | op :: rest =>
    rw [checkOps, seq_eq_ok_iff] at checked
    obtain ⟨first, others, emittedFirst, emittedOthers, rfl⟩ := exists_of_statements?_cons emitted
    have here := traces_opStatements node named depth kind way fits op checked.1 first emittedFirst
    have later := traces_statements node named depth kind way fits rest checked.2 others
      emittedOthers
    rw [statementLines_append, itemMarks_append]
    exact here.append later

end

/-! ### Renderers -/

/-- Outside of all blocks an accepted program does not use an item. -/
theorem not_bindsItem_of_checkOps {ops : List RenderOp}
    (distinct : (node.fields.map (·.name)).Nodup) (checked : checkOps node false ops = .ok ()) :
    bindsItem ops = false := by
  refine List.any_eq_false.mpr fun op member isItem => ?_
  have fits := ((checkOp_eq_ok_iff distinct).mp (checkOps_eq_ok_iff.mp checked op member)).1
  cases op with
  | item => cases fits
  | literal | field | forEach | ifPresent => cases isItem

theorem itemsBound_body {record : Record} {ops : List RenderOp} {reserved : List String}
    (named : node.WellNamed reserved) (render : node.render = .custom ops)
    (checked : checkRender node = .ok ()) (body : node.body? = some record.body) :
    ItemsBound node ops (itemMarks lexeme (record.body.lines lexeme)) := by
  rw [Node.body?, render] at body
  rw [checkRender, render] at checked
  obtain ⟨statements, emitted, same⟩ := Option.bind_eq_some_iff.mp body
  have traces : Traces node .other ops (itemMarks lexeme (statementLines lexeme 2 statements)) :=
    traces_statements node named 2 none .other nofun ops checked statements emitted
  have touch : itemMarks lexeme (Statement.touch.lines lexeme 2) = [] := by
    rw [Statement.lines, itemMarks_singleton (by decide)]
    exact codeMarks_other "f;".toList (by decide) rfl (by decide) (by decide) (by decide)
  have last : itemMarks lexeme [indented 2 "Ok(())"] = [] := by
    rw [itemMarks_singleton (by decide)]
    exact codeMarks_other "Ok(())".toList (by decide) rfl (by decide) (by decide) (by decide)
  have marks : itemMarks lexeme (record.body.lines lexeme) =
      itemMarks lexeme (statementLines lexeme 2 statements) := by
    rw [← Option.some.inj same, Body.lines, itemMarks_append, last, List.append_nil]
    split
    next => rw [statementLines, itemMarks_append, touch, List.nil_append]
    next => rfl
  rw [marks]
  exact traces.itemsBound (not_bindsItem_of_checkOps named.distinct checked)

namespace Schema

/-- In the renderers of an accepted schema every block introduces the name of the item exactly if it
uses it, and every use of the name stands for the item of the step that it is written for. -/
theorem units_itemsBound {schema : Schema} {index : Index} (checked : schema.check = .ok index) :
    ∃ units, schema.units = .ok units ∧
      ∀ (c : Nat) (category : Category), schema.categories[c]? = some category →
        ∃ unit, units[c]? = some unit ∧ ∀ node ∈ category.nodes,
          ∀ ops, node.render = .custom ops →
            ∃ record, node.record? schema.collaborators = some record ∧
              unit.HasLines (record.renderer schema.collaborators.lexeme) ∧
              ItemsBound node ops (itemMarks schema.collaborators.lexeme
                (record.body.lines schema.collaborators.lexeme)) := by
  have wellFormed := wellFormed_of_check checked
  obtain ⟨units, made, renderers⟩ := exists_renderers checked
  refine ⟨units, made, fun c category found => ?_⟩
  have among := List.mem_of_getElem? found
  obtain ⟨unit, place, holds⟩ := renderers c category found
  refine ⟨unit, place, fun node member ops render => ?_⟩
  obtain ⟨record, isRecord, lines⟩ := holds node member
  have named := (wellFormed.categories category among).nodes node member
  have rendered := (checkRender_eq_ok_iff named.distinct).mpr
    (wellFormed.renders category among node member)
  exact ⟨record, Node.record?_eq_some_iff.mpr isRecord, lines,
    itemsBound_body named render rendered isRecord.body⟩

/-- The loop does not introduce the name, since only the block inside it uses it. What is called
`item` besides, a field and a text, is no use. -/
theorem units_itemsBound_of_nested :
    let ops : List RenderOp := [.ifPresent "item"
      [.forEach "rows" [.ifPresent "mark" [.item, .literal "item"]] ";", .item]]
    let node : Node := ⟨"TableExpr", "Table",
      [⟨"item", .optionalNode "Expr"⟩, ⟨"rows", .sequence "Expr"⟩, ⟨"mark", .optionalToken⟩],
      .custom ops⟩
    let schema : Schema := ⟨{}, [⟨"Expr", none, [node]⟩]⟩
    ∃ index units unit record, schema.check = .ok index ∧ schema.units = .ok units ∧
      units[0]? = some unit ∧ node.record? schema.collaborators = some record ∧
      unit.HasLines (record.renderer schema.collaborators.lexeme) ∧
      let marks := itemMarks schema.collaborators.lexeme
        (record.body.lines schema.collaborators.lexeme)
      ItemsBound node ops marks ∧ (blocks marks).map (·.binds) = [true, false, true] ∧
        (uses marks).map (fun use => (use.way, use.binder?)) =
          [(.accessor, some 2), (.display, some 0)] := by
  intro ops node schema
  have checked : schema.check = .ok ⟨[("TableExpr", .record 0 0), ("Expr", .union 0)]⟩ :=
    check_eq_ok_of_flat (by decide +kernel) (by decide +kernel) (by decide +kernel)
  obtain ⟨units, made, each⟩ := units_itemsBound checked
  obtain ⟨unit, place, holds⟩ := each 0 _ rfl
  obtain ⟨record, emitted, lines, bound⟩ := holds node List.mem_cons_self ops rfl
  have body : Body.block [.ifPresent true "item" [.forEach false "rows" [.ifPresent true "mark"
      [.writeLexeme .item, .writeText "item"], .writeText ";"], .display .item]] = record.body :=
    Option.some.inj (Node.record?_eq_some_iff.mp emitted).body
  have known : itemMarks schema.collaborators.lexeme
      (record.body.lines schema.collaborators.lexeme) =
      [.opens ⟨.present "item", true⟩, .opens ⟨.each "rows", false⟩, .opens ⟨.present "mark", true⟩,
        .use .accessor, .closes, .closes, .use .display, .closes] := by
    rw [← body]
    decide +kernel
  refine ⟨_, units, unit, record, checked, made, place, emitted, lines, bound, ?_, ?_⟩
  · rw [known]
    rfl
  · rw [known]
    rfl

end Schema

end TreeSchema
