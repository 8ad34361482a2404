import TreeSchema.Proofs.Render.Literals
import TreeSchema.Proofs.Schema.Identifiers

/-!
Where renderers use their formatter. A line of a body uses it if it writes anything, and the line
that only mentions it stands in the bodies of empty programs. A program that has steps and nothing
to write gets neither.
-/

namespace TreeSchema

open Source

variable {node : Node} {lexeme name : String} {depth : Nat} {statements : List Statement}
  {before : Char} {word rest : List Char}

/-! ### Reading code -/

/-- The characters of names. -/
def inName (c : Char) : Bool :=
  Text.isAlphanumeric c || c == '_'

/-- Where the reader of a line is, in code after a character or in a literal. -/
inductive CodePlace where
  | code (before : Char)
  | literal
  | escape

/-- Whether a name that starts after the character is a variable, and no part of another name and no
field or method. -/
def opensName (before : Char) : Bool :=
  !inName before && before != '.'

/-- Whether the code uses the variable `f` outside of its literals. -/
def usesFormatter : CodePlace → List Char → Bool
  | _, [] => false
  | .escape, _ :: rest => usesFormatter .literal rest
  | .literal, c :: rest =>
    usesFormatter (if c = '\\' then .escape else if c = '"' then .code c else .literal) rest
  | .code before, c :: rest =>
    (c = 'f' && opensName before && !rest.head?.any inName) ||
      usesFormatter (if c = '"' then .literal else .code c) rest

/-- Whether one of the lines uses the variable `f`. -/
def UsesFormatter (lines : List String) : Prop :=
  ∃ line ∈ lines, usesFormatter (.code ' ') line.toList = true

theorem usesFormatter_indented (depth : Nat) (line : String) :
    usesFormatter (.code ' ') (indented depth line).toList =
      usesFormatter (.code ' ') line.toList := by
  induction depth with
  | zero => simp [indented]
  | succ depth ih =>
    rw [← ih]
    simp [indented, List.replicate_succ, usesFormatter]

/-- A name without a variable before it is no variable, and what follows it is code again. -/
theorem usesFormatter_word (letters : ∀ c ∈ word, inName c = true)
    (joined : opensName before = false)
    (after : ∀ before, usesFormatter (.code before) rest = false) :
    usesFormatter (.code before) (word ++ rest) = false := by
  induction word generalizing before with
  | nil => exact after before
  | cons c word ih =>
    obtain ⟨letter, letters⟩ := List.forall_mem_cons.mp letters
    have noQuote : c ≠ '"' := by
      rintro rfl
      exact absurd letter (by decide)
    have joins : opensName c = false := by simp [opensName, letter]
    rw [List.cons_append, usesFormatter, joined, if_neg noQuote, ih letters joins]
    simp

theorem usesFormatter_past (letters : ∀ c ∈ word, inName c = true)
    (after : ∀ before, usesFormatter (.code before) rest = true) :
    usesFormatter (.code before) (word ++ rest) = true := by
  induction word generalizing before with
  | nil => exact after before
  | cons c word ih =>
    obtain ⟨letter, letters⟩ := List.forall_mem_cons.mp letters
    have noQuote : c ≠ '"' := by
      rintro rfl
      exact absurd letter (by decide)
    rw [List.cons_append, usesFormatter, if_neg noQuote, ih letters, Bool.or_true]

/-! ### Lines -/

theorem usesFormatter_writeStr (tail : String) :
    usesFormatter (.code ' ') ("f.write_str(" ++ tail).toList = true := by
  rw [String.toList_append]
  rfl

theorem usesFormatter_write (tail : String) :
    usesFormatter (.code ' ') ("write!(f, " ++ tail).toList = true := by
  rw [String.toList_append]
  rfl

theorem usesFormatter_display (letters : ∀ c ∈ name.toList, inName c = true) :
    usesFormatter (.code ' ') ("fmt::Display::fmt(&self." ++ name ++ ", f)?;").toList = true := by
  rw [String.append_assoc, String.toList_append, String.toList_append]
  have past : usesFormatter (.code '.') (name.toList ++ ", f)?;".toList) = true :=
    usesFormatter_past letters fun _ => rfl
  exact past

theorem usesFormatter_for (binds : Bool) (letters : ∀ c ∈ name.toList, inName c = true) :
    usesFormatter (.code ' ') ("for " ++ (if binds then "item" else "_") ++ " in self." ++ name ++
      ".iter() \x7b").toList = false := by
  have word : usesFormatter (.code '.') (name.toList ++ ".iter() \x7b".toList) = false :=
    usesFormatter_word letters (by decide) fun _ => rfl
  rw [String.append_assoc, String.toList_append, String.toList_append (s := name)]
  cases binds <;> exact word

theorem usesFormatter_if (binds : Bool) (letters : ∀ c ∈ name.toList, inName c = true) :
    usesFormatter (.code ' ') (if binds then "if let Some(item) = &self." ++ name ++ " \x7b"
      else "if self." ++ name ++ ".is_some() \x7b").toList = false := by
  cases binds with
  | true =>
    have word : usesFormatter (.code '.') (name.toList ++ " \x7b".toList) = false :=
      usesFormatter_word letters (by decide) fun _ => rfl
    rw [if_pos rfl, String.append_assoc, String.toList_append, String.toList_append]
    exact word
  | false =>
    have word : usesFormatter (.code '.') (name.toList ++ ".is_some() \x7b".toList) = false :=
      usesFormatter_word letters (by decide) fun _ => rfl
    rw [if_neg nofun, String.append_assoc, String.toList_append, String.toList_append]
    exact word

theorem usesFormatter_append (first second : List String) :
    UsesFormatter (first ++ second) ↔ UsesFormatter first ∨ UsesFormatter second := by
  simp only [UsesFormatter, List.mem_append, or_and_right, exists_or]

theorem usesFormatter_singleton (depth : Nat) (line : String) :
    UsesFormatter [indented depth line] ↔ usesFormatter (.code ' ') line.toList = true := by
  simp [UsesFormatter, usesFormatter_indented]

/-! ### Programs -/

/-- The step writes something by itself, whatever is inside it. -/
def RenderOp.Writes : RenderOp → Prop
  | .literal text => text ≠ ""
  | .field _ | .item => True
  | .forEach _ _ separator => separator ≠ ""
  | .ifPresent _ _ => False

/-- Something in the program writes, at any depth. -/
def Speaks (bound : Bool) (ops : List RenderOp) : Prop :=
  ∃ op inner, RenderOp.Occurs bound ops op inner ∧ op.Writes

theorem not_speaks_nil (bound : Bool) : ¬Speaks bound [] := by
  rintro ⟨op, inner, member | ⟨member, -⟩, -⟩ <;> cases member

theorem speaks_cons {bound : Bool} {op : RenderOp} {rest : List RenderOp} :
    Speaks bound (op :: rest) ↔ (op.Writes ∨ Speaks true op.steps) ∨ Speaks bound rest := by
  constructor
  · rintro ⟨other, inner, member | ⟨member, inside⟩, writes⟩
    · rcases List.mem_cons.mp member with rfl | later
      · exact .inl (.inl writes)
      · exact .inr ⟨other, _, .here later, writes⟩
    · rcases List.mem_cons.mp member with rfl | later
      · exact .inl (.inr ⟨other, inner, inside, writes⟩)
      · exact .inr ⟨other, inner, .inside later inside, writes⟩
  · rintro ((writes | ⟨other, inner, inside, writes⟩) | ⟨other, inner, occurs, writes⟩)
    · exact ⟨op, bound, .here List.mem_cons_self, writes⟩
    · exact ⟨other, inner, .inside List.mem_cons_self inside, writes⟩
    · exact ⟨other, inner, occurs.cons op, writes⟩

theorem usesFormatter_text (text : String) :
    UsesFormatter (statementLines lexeme depth (if text.isEmpty then [] else [.writeText text])) ↔
      text ≠ "" := by
  split
  next empty =>
    obtain rfl : text = "" := by simpa using empty
    simp [UsesFormatter, statementLines]
  next shown =>
    rw [statementLines_singleton, Statement.lines, usesFormatter_singleton, String.append_assoc,
      usesFormatter_writeStr]
    simpa using shown

theorem usesFormatter_lexeme (place : Place) :
    UsesFormatter ((Statement.writeLexeme place).lines lexeme depth) := by
  rw [Statement.lines, usesFormatter_singleton, String.append_assoc, String.append_assoc,
    String.append_assoc]
  exact usesFormatter_writeStr _

theorem usesFormatter_field {kind : Option ItemKind} (letters : ∀ c ∈ name.toList, inName c = true)
    (emitted : opStatements? node kind (.field name) = some statements) :
    UsesFormatter (statementLines lexeme depth statements) := by
  obtain ⟨field, -, rfl⟩ := exists_of_opStatements?_field emitted
  rw [statementLines_singleton]
  split
  next => exact usesFormatter_lexeme _
  next =>
    have line := usesFormatter_display letters
    rw [Statement.lines, usesFormatter_singleton, Place.reference]
    simpa [String.append_assoc] using line

theorem usesFormatter_item {kind : Option ItemKind}
    (emitted : opStatements? node kind .item = some statements) :
    UsesFormatter (statementLines lexeme depth statements) := by
  cases kind with
  | none => cases emitted
  | some bound =>
    cases bound with
    | token =>
      cases emitted
      exact statementLines_singleton _ ▸ usesFormatter_lexeme _
    | node =>
      cases emitted
      rw [statementLines_singleton, Statement.lines, usesFormatter_singleton]
      rfl

/-- The lines around a block do not use the formatter. -/
theorem usesFormatter_block {line : String} (head : usesFormatter (.code ' ') line.toList = false)
    (body : List Statement) :
    UsesFormatter (indented depth line :: statementLines lexeme (depth + 1) body ++
      [indented depth "\x7d"]) ↔ UsesFormatter (statementLines lexeme (depth + 1) body) := by
  have opening : ¬UsesFormatter [indented depth line] := by
    rw [usesFormatter_singleton, head]
    exact Bool.false_ne_true
  have closing : ¬UsesFormatter [indented depth "\x7d"] := by
    rw [usesFormatter_singleton]
    decide
  rw [usesFormatter_append, ← List.singleton_append, usesFormatter_append]
  simp [opening, closing]

theorem inName_of_accepts {style : NameStyle} (written : style.accepts name = true) :
    ∀ c ∈ name.toList, inName c = true := by
  intro c inside
  rcases NameStyle.isAlphanumeric_of_accepts written inside with letter | ⟨-, rfl⟩
  · simp [inName, letter]
  · decide

theorem Node.WellNamed.inName {reserved : List String} {kind : FieldType → Bool}
    (named : node.WellNamed reserved) (has : node.HasField kind name) :
    ∀ c ∈ name.toList, inName c = true := by
  obtain ⟨field, member, rfl, -⟩ := has
  exact inName_of_accepts (named.fields field member).written

mutual

/-- At any depth, the lines of a step use the formatter if something in the step writes. -/
theorem usesFormatter_opStatements {reserved : List String} (node : Node)
    (named : node.WellNamed reserved) (depth : Nat) (kind : Option ItemKind) (op : RenderOp)
    (checked : checkOp node kind.isSome op = .ok ()) (statements : List Statement)
    (emitted : opStatements? node kind op = some statements) :
    UsesFormatter (statementLines lexeme depth statements) ↔ op.Writes ∨ Speaks true op.steps := by
  obtain ⟨fits, inside⟩ := (checkOp_eq_ok_iff named.distinct).mp checked
  match op with
  | .literal text =>
    cases emitted
    rw [usesFormatter_text]
    simp [RenderOp.Writes, RenderOp.steps, not_speaks_nil]
  | .field name =>
    have uses : UsesFormatter (statementLines lexeme depth statements) :=
      usesFormatter_field (named.inName fits) emitted
    simp [uses, RenderOp.Writes]
  | .item =>
    have uses : UsesFormatter (statementLines lexeme depth statements) :=
      usesFormatter_item emitted
    simp [uses, RenderOp.Writes]
  | .forEach name body separator =>
    obtain ⟨inner, emittedInner, rfl⟩ := exists_of_opStatements?_forEach emitted
    have uses := usesFormatter_statements node named (depth + 1) (some .node) body inside inner
      emittedInner
    rw [statementLines_singleton, Statement.lines,
      usesFormatter_block (usesFormatter_for _ (named.inName fits)), statementLines_append,
      usesFormatter_append, uses, usesFormatter_text]
    exact or_comm
  | .ifPresent name body =>
    obtain ⟨bound, inner, known, emittedInner, rfl⟩ := exists_of_opStatements?_ifPresent emitted
    have uses := usesFormatter_statements node named (depth + 1) (some bound) body inside inner
      emittedInner
    rw [statementLines_singleton, Statement.lines,
      usesFormatter_block (usesFormatter_if _ (named.inName fits)), uses]
    exact (or_iff_right id).symm

theorem usesFormatter_statements {reserved : List String} (node : Node)
    (named : node.WellNamed reserved) (depth : Nat) (kind : Option ItemKind) (ops : List RenderOp)
    (checked : checkOps node kind.isSome ops = .ok ()) (statements : List Statement)
    (emitted : statements? node kind ops = some statements) :
    UsesFormatter (statementLines lexeme depth statements) ↔ Speaks kind.isSome ops := by
  match ops with
  | [] =>
    cases emitted
    simp [UsesFormatter, statementLines, not_speaks_nil]
  | op :: rest =>
    rw [checkOps, seq_eq_ok_iff] at checked
    obtain ⟨first, others, emittedFirst, emittedOthers, rfl⟩ := exists_of_statements?_cons emitted
    have here := usesFormatter_opStatements node named depth kind op checked.1 first emittedFirst
    have later := usesFormatter_statements node named depth kind rest checked.2 others emittedOthers
    rw [statementLines_append, usesFormatter_append, here, later, speaks_cons]

end

/-! ### Renderers -/

/-- The node's program has steps, and none of them writes anything. -/
def Node.Mute (node : Node) : Prop :=
  ∃ ops, node.render = .custom ops ∧ ops ≠ [] ∧ ¬Speaks false ops

theorem usesFormatter_block_body {ops : List RenderOp} {reserved : List String}
    (named : node.WellNamed reserved) (checked : checkOps node false ops = .ok ())
    (emitted : statements? node none ops = some statements) :
    UsesFormatter ((Body.block (if ops.isEmpty then .touch :: statements else statements)).lines
      lexeme) ↔ ops = [] ∨ Speaks false ops := by
  have inside : UsesFormatter (statementLines lexeme 2 statements) ↔ Speaks false ops :=
    usesFormatter_statements node named 2 none ops checked statements emitted
  have last : ¬UsesFormatter [indented 2 "Ok(())"] := by
    rw [usesFormatter_singleton]
    decide
  have touch : UsesFormatter (Statement.touch.lines lexeme 2) := by
    rw [Statement.lines, usesFormatter_singleton]
    decide
  rw [Body.lines, usesFormatter_append, or_iff_left last]
  cases ops with
  | nil => simp [statementLines, usesFormatter_append, touch]
  | cons op rest => simpa using inside

/-- The body of a renderer uses the formatter, unless the node's program has steps and writes
nothing. -/
theorem usesFormatter_body {record : Record} {reserved : List String}
    (named : node.WellNamed reserved) (checked : checkRender node = .ok ())
    (body : node.body? = some record.body) :
    UsesFormatter (record.body.lines lexeme) ↔ ¬node.Mute := by
  unfold Node.body? at body
  unfold checkRender at checked
  unfold Node.Mute
  cases render : node.render with
  | template format args =>
    simp only [render, templateBody?] at body
    have uses : UsesFormatter (record.body.lines lexeme) := by
      split at body
      next => cases body
      next segments parsed =>
        split at body
        next =>
          rw [← Option.some.inj body, Body.lines, usesFormatter_singleton, String.append_assoc]
          exact usesFormatter_writeStr _
        next =>
          obtain ⟨operands, -, same⟩ := Option.map_eq_some_iff.mp body
          rw [← same, Body.lines, usesFormatter_singleton]
          simp only [String.append_assoc]
          exact usesFormatter_write _
    simpa using uses
  | custom ops =>
    simp only [render] at body checked
    obtain ⟨statements, emitted, same⟩ := Option.bind_eq_some_iff.mp body
    rw [← Option.some.inj same, usesFormatter_block_body named checked emitted]
    simp [or_iff_not_imp_left]

namespace Schema

/-- The renderer of every record stands in the unit of its category. -/
theorem exists_renderers {schema : Schema} {index : Index} (checked : schema.check = .ok index) :
    ∃ units, schema.units = .ok units ∧
      ∀ (c : Nat) (category : Category), schema.categories[c]? = some category →
        ∃ unit, units[c]? = some unit ∧ ∀ node ∈ category.nodes,
          ∃ record : Record, record.IsOf schema.collaborators node ∧
            unit.HasLines (record.renderer schema.collaborators.lexeme) := by
  obtain ⟨files, made, hasFiles⟩ := exists_files checked
  refine ⟨_, units_eq_ok_iff.mpr ⟨files, made, rfl⟩, fun c category found => ?_⟩
  obtain ⟨file, place, isOf⟩ := hasFiles.exists_file found
  refine ⟨file.unit, by rw [List.getElem?_map, place, Option.map_some], fun node member => ?_⟩
  obtain ⟨n, inside⟩ := List.mem_iff_getElem?.mp member
  obtain ⟨record, emitted, isRecord⟩ := isOf.exists_record inside
  rw [← isOf.lexeme]
  exact ⟨record, isRecord, File.hasLines_of_infix (File.renderer_infix emitted)⟩

/-- The renderers of an accepted schema use their formatter, except those of programs that have
steps and write nothing. -/
theorem units_useFormatter {schema : Schema} {index : Index} (checked : schema.check = .ok index) :
    ∃ units, schema.units = .ok units ∧
      ∀ (c : Nat) (category : Category), schema.categories[c]? = some category →
        ∃ unit, units[c]? = some unit ∧ ∀ node ∈ category.nodes,
          ∃ record, node.record? schema.collaborators = some record ∧
            unit.HasLines (record.renderer schema.collaborators.lexeme) ∧
            (UsesFormatter (record.body.lines schema.collaborators.lexeme) ↔ ¬node.Mute) := by
  have wellFormed := wellFormed_of_check checked
  obtain ⟨units, made, renderers⟩ := exists_renderers checked
  refine ⟨units, made, fun c category found => ?_⟩
  have among := List.mem_of_getElem? found
  obtain ⟨unit, place, holds⟩ := renderers c category found
  refine ⟨unit, place, fun node member => ?_⟩
  obtain ⟨record, isRecord, lines⟩ := holds node member
  have named := (wellFormed.categories category among).nodes node member
  have rendered := (checkRender_eq_ok_iff named.distinct).mpr
    (wellFormed.renders category among node member)
  exact ⟨record, Node.record?_eq_some_iff.mpr isRecord, lines,
    usesFormatter_body named rendered isRecord.body⟩

/-- A text deep inside of blocks is enough. A field that is called like the formatter is not: its
block writes nothing. -/
theorem units_useFormatter_of_blocks :
    let deep : Node := ⟨"DeepExpr", "Deep", [⟨"args", .sequence "Expr"⟩, ⟨"mark", .optionalToken⟩],
      .custom [.ifPresent "mark" [], .forEach "args" [.ifPresent "mark" [.literal "!"]] ""]⟩
    let mute : Node := ⟨"MuteExpr", "Mute", [⟨"f", .sequence "Expr"⟩],
      .custom [.forEach "f" [.literal ""] ""]⟩
    let schema : Schema := ⟨{}, [⟨"Expr", none, [deep, mute]⟩]⟩
    ∃ index units unit, schema.check = .ok index ∧ schema.units = .ok units ∧
      units[0]? = some unit ∧
      (∃ record, deep.record? schema.collaborators = some record ∧
        unit.HasLines (record.renderer schema.collaborators.lexeme) ∧
        UsesFormatter (record.body.lines schema.collaborators.lexeme)) ∧
      ∃ record, mute.record? schema.collaborators = some record ∧
        unit.HasLines (record.renderer schema.collaborators.lexeme) ∧
        ¬UsesFormatter (record.body.lines schema.collaborators.lexeme) := by
  intro deep mute schema
  have checked : schema.check = .ok ⟨[("MuteExpr", .record 0 1), ("DeepExpr", .record 0 0),
      ("Expr", .union 0)]⟩ :=
    check_eq_ok_of_flat (by decide +kernel) (by decide +kernel) (by decide +kernel)
  obtain ⟨units, made, each⟩ := units_useFormatter checked
  obtain ⟨unit, place, holds⟩ := each 0 _ rfl
  obtain ⟨deepRecord, isDeep, deepLines, deepUses⟩ := holds deep List.mem_cons_self
  obtain ⟨muteRecord, isMute, muteLines, muteUses⟩ :=
    holds mute (List.mem_cons_of_mem _ List.mem_cons_self)
  have speaks : ¬deep.Mute := by
    rintro ⟨ops, same, -, silent⟩
    obtain rfl := Render.custom.inj same
    exact silent ⟨.literal "!", true, .inside (List.mem_cons_of_mem _ List.mem_cons_self)
      (.inside List.mem_cons_self (.here List.mem_cons_self)), by simp [RenderOp.Writes]⟩
  have silent : mute.Mute := by
    refine ⟨_, rfl, nofun, ?_⟩
    simp [speaks_cons, not_speaks_nil, RenderOp.Writes, RenderOp.steps]
  exact ⟨_, units, unit, checked, made, place, ⟨deepRecord, isDeep, deepLines, deepUses.mpr speaks⟩,
    muteRecord, isMute, muteLines, fun uses => muteUses.mp uses silent⟩

/-- A program whose only text is empty is accepted, and its renderer does not use its formatter. -/
theorem not_usesFormatter_of_empty_text :
    let node : Node := ⟨"BlankExpr", "Blank", [], .custom [.literal ""]⟩
    let schema : Schema := ⟨{}, [⟨"Expr", none, [node]⟩]⟩
    ∃ index units unit record, schema.check = .ok index ∧ schema.units = .ok units ∧
      units[0]? = some unit ∧ node.record? schema.collaborators = some record ∧
      unit.HasLines (record.renderer schema.collaborators.lexeme) ∧
      ¬UsesFormatter (record.body.lines schema.collaborators.lexeme) := by
  intro node schema
  have checked : schema.check = .ok ⟨[("BlankExpr", .record 0 0), ("Expr", .union 0)]⟩ :=
    check_eq_ok_of_flat (by decide +kernel) (by decide +kernel) (by decide +kernel)
  obtain ⟨units, made, renderers⟩ := exists_renderers checked
  obtain ⟨unit, place, holds⟩ := renderers 0 _ rfl
  obtain ⟨record, isRecord, lines⟩ := holds node List.mem_cons_self
  refine ⟨_, units, unit, record, checked, made, place, Node.record?_eq_some_iff.mpr isRecord,
    lines, ?_⟩
  have body : Body.block [] = record.body := Option.some.inj isRecord.body
  rw [← body]
  rintro ⟨line, member, uses⟩
  obtain rfl := List.mem_singleton.mp member
  exact absurd uses (by decide)

end Schema

end TreeSchema
