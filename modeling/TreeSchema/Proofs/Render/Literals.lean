import TreeSchema.Proofs.Text.Quoting
import TreeSchema.Proofs.Units.Emission

/-!
The string literals of renderers. Reading the lines of a renderer from outside, without knowing what
they were written for, gives the literals and separators of the program in their order, or the text
or the format of the template.
-/

namespace TreeSchema

open Source

variable {node : Node} {lexeme line : String} {depth : Nat} {statements : List Statement}

/-! ### Reading lines -/

/-- A call that writes a literal, or one that fills it as a format. -/
inductive LiteralCall where
  | write (literal : String)
  | format (literal : String)
  deriving DecidableEq

/-- The literal that follows the given start of a call. -/
def literalAfter? (start : String) (code : List Char) : Option String :=
  (code.dropPrefix? start.toList).bind Text.leadingLiteral?

/-- The call that a line makes with a literal, found after its indentation. -/
def literalCall? (line : String) : Option LiteralCall :=
  let code := line.toList.dropWhile (· == ' ')
  ((literalAfter? "f.write_str(" code).map .write).or
    ((literalAfter? "write!(f, " code).map .format)

theorem dropWhile_indented (depth : Nat) (line : String) :
    (indented depth line).toList.dropWhile (· == ' ') = line.toList.dropWhile (· == ' ') := by
  simp [indented]

theorem dropWhile_indented_of_head (starts : line.toList.head? ≠ some ' ') :
    (indented depth line).toList.dropWhile (· == ' ') = line.toList := by
  rw [dropWhile_indented]
  cases chars : line.toList with
  | nil => rfl
  | cons c rest =>
    rw [chars, List.head?_cons, ne_eq, Option.some.injEq] at starts
    exact List.dropWhile_cons_of_neg (by simpa using starts)

theorem literalCall?_indented (depth : Nat) (line : String) :
    literalCall? (indented depth line) = literalCall? line := by
  rw [literalCall?, dropWhile_indented, literalCall?]

theorem literalAfter?_quoted (start text tail : String) :
    literalAfter? start (start ++ Text.quoted text ++ tail).toList = some (Text.quoted text) := by
  rw [literalAfter?, String.append_assoc, String.toList_append,
    List.dropPrefix?_append_of_beq _ (beq_self_eq_true _), Option.bind_some, String.toList_append,
    Text.leadingLiteral?_quoted]

theorem prefix_of_literalAfter? {start literal : String} {code : List Char}
    (found : literalAfter? start code = some literal) : (start ++ "\"").toList <+: code := by
  obtain ⟨rest, dropped, read⟩ := Option.bind_eq_some_iff.mp found
  obtain ⟨front, rfl, same⟩ := List.dropPrefix?_eq_some_iff.mp dropped
  obtain rfl := eq_of_beq same
  unfold Text.leadingLiteral? at read
  split at read
  next inside => simp [String.toList_append]
  next => cases read

theorem literalCall?_write (text tail : String) :
    literalCall? ("f.write_str(" ++ Text.quoted text ++ tail) =
      some (.write (Text.quoted text)) := by
  have code : ("f.write_str(" ++ Text.quoted text ++ tail).toList.dropWhile (· == ' ') =
      ("f.write_str(" ++ Text.quoted text ++ tail).toList := by
    simp
  rw [literalCall?, code, literalAfter?_quoted, Option.map_some, Option.some_or]

theorem literalCall?_format (text tail : String) :
    literalCall? ("write!(f, " ++ Text.quoted text ++ tail) =
      some (.format (Text.quoted text)) := by
  have code : ("write!(f, " ++ Text.quoted text ++ tail).toList.dropWhile (· == ' ') =
      ("write!(f, " ++ Text.quoted text ++ tail).toList := by
    simp
  have other : literalAfter? "f.write_str(" ("write!(f, " ++ Text.quoted text ++ tail).toList =
      none := by
    refine Option.eq_none_iff_forall_ne_some.mpr fun literal found => ?_
    simpa using prefix_of_literalAfter? found
  rw [literalCall?, code, other, literalAfter?_quoted, Option.map_none, Option.none_or,
    Option.map_some]

/-- How the calls with literals start. -/
def callStarts : List String := ["f.write_str(", "write!(f, "]

/-- A line that starts so makes no call with a literal. -/
def StartsOther (start : List Char) : Prop :=
  start.head?.any (· != ' ') = true ∧ ∀ call ∈ callStarts,
    ¬start <+: (call ++ "\"").toList ∧ ¬(call ++ "\"").toList <+: start

instance : DecidablePred StartsOther := fun _ => inferInstanceAs (Decidable (_ ∧ _))

theorem literalCall?_other {start : List Char} (other : StartsOther start)
    (opens : start <+: line.toList) : literalCall? line = none := by
  obtain ⟨shown, apart⟩ := other
  have code : line.toList.dropWhile (· == ' ') = line.toList := by
    obtain ⟨rest, same⟩ := opens
    rw [← same]
    cases start with
    | nil => simp at shown
    | cons c others =>
      have first : (c == ' ') = false := by simpa using shown
      rw [List.cons_append, List.dropWhile_cons_of_neg (by simp [first])]
  have missing (call : String) (among : call ∈ callStarts) :
      literalAfter? call line.toList = none := by
    refine Option.eq_none_iff_forall_ne_some.mpr fun literal found => ?_
    -- Both begin the line, so one of the two begins the other.
    rcases List.prefix_or_prefix_of_prefix opens (prefix_of_literalAfter? found) with one | one
    · exact (apart _ among).1 one
    · exact (apart _ among).2 one
  rw [literalCall?, code, missing "f.write_str(" (by decide), missing "write!(f, " (by decide)]
  rfl

/-! ### Programs -/

mutual

/-- The literals and separators of a step, in their order. -/
def RenderOp.texts : RenderOp → List String
  | .literal text => [text]
  | .field _ | .item => []
  | .forEach _ body separator => textsOf body ++ [separator]
  | .ifPresent _ body => textsOf body

def textsOf : List RenderOp → List String
  | [] => []
  | op :: rest => op.texts ++ textsOf rest

end

/-- The calls that write the texts. Empty ones are not written. -/
def writes (texts : List String) : List LiteralCall :=
  (texts.filter (· ≠ "")).map fun text => .write (Text.quoted text)

theorem writes_append (first second : List String) :
    writes (first ++ second) = writes first ++ writes second := by
  simp [writes]

theorem statementLines_append (first second : List Statement) :
    statementLines lexeme depth (first ++ second) =
      statementLines lexeme depth first ++ statementLines lexeme depth second := by
  induction first with
  | nil => rfl
  | cons statement rest ih =>
    rw [List.cons_append, statementLines, ih, statementLines, List.append_assoc]

theorem statementLines_singleton (statement : Statement) :
    statementLines lexeme depth [statement] = statement.lines lexeme depth := by
  rw [statementLines, statementLines, List.append_nil]

theorem calls_writeText (text : String) :
    (statementLines lexeme depth (if text.isEmpty then [] else [.writeText text])).filterMap
      literalCall? = writes [text] := by
  split
  next empty =>
    obtain rfl : text = "" := by simpa using empty
    rfl
  next shown =>
    have kept : text ≠ "" := by simpa using shown
    rw [statementLines_singleton, Statement.lines, List.filterMap_cons, literalCall?_indented,
      literalCall?_write, writes]
    simp [kept]

/-- A line whose start is that of no call adds nothing to what is read. -/
theorem filterMap_other {start : List Char} (other : StartsOther start) {lines : List String}
    (opens : start <+: line.toList) :
    (indented depth line :: lines).filterMap literalCall? = lines.filterMap literalCall? := by
  rw [List.filterMap_cons, literalCall?_indented, literalCall?_other other opens]

theorem calls_writeLexeme (place : Place) :
    ((Statement.writeLexeme place).lines lexeme depth).filterMap literalCall? = [] := by
  rw [Statement.lines]
  cases place with
  | field name =>
    exact filterMap_other (by decide : StartsOther "f.write_str(self.".toList)
      (by simp [Place.text])
  | item =>
    exact filterMap_other (by decide : StartsOther "f.write_str(item".toList)
      (by simp [Place.text])

theorem calls_display (place : Place) :
    ((Statement.display place).lines lexeme depth).filterMap literalCall? = [] := by
  rw [Statement.lines]
  exact filterMap_other (by decide : StartsOther "fmt::Display::fmt(".toList) (by simp)

/-- The lines around a block make no such call. -/
theorem calls_block {start : List Char} (other : StartsOther start) (opens : start <+: line.toList)
    (body : List Statement) :
    (indented depth line :: statementLines lexeme (depth + 1) body ++
      [indented depth "\x7d"]).filterMap literalCall? =
      (statementLines lexeme (depth + 1) body).filterMap literalCall? := by
  rw [List.cons_append, filterMap_other other opens, List.filterMap_append,
    filterMap_other (by decide : StartsOther "\x7d".toList) List.prefix_rfl, List.filterMap_nil,
    List.append_nil]

theorem calls_forEach (binds : Bool) (field : String) (body : List Statement) :
    ((Statement.forEach binds field body).lines lexeme depth).filterMap literalCall? =
      (statementLines lexeme (depth + 1) body).filterMap literalCall? := by
  rw [Statement.lines]
  exact calls_block (by decide : StartsOther "for ".toList) (by simp) body

theorem calls_ifPresent (binds : Bool) (field : String) (body : List Statement) :
    ((Statement.ifPresent binds field body).lines lexeme depth).filterMap literalCall? =
      (statementLines lexeme (depth + 1) body).filterMap literalCall? := by
  rw [Statement.lines]
  exact calls_block (by decide : StartsOther "if ".toList) (by cases binds <;> simp) body

theorem calls_field {name : String} {kind : Option ItemKind}
    (emitted : opStatements? node kind (.field name) = some statements) :
    (statementLines lexeme depth statements).filterMap literalCall? = [] := by
  obtain ⟨field, -, rfl⟩ := exists_of_opStatements?_field emitted
  rw [statementLines_singleton]
  split
  next => exact calls_writeLexeme _
  next => exact calls_display _

theorem calls_item {kind : Option ItemKind}
    (emitted : opStatements? node kind .item = some statements) :
    (statementLines lexeme depth statements).filterMap literalCall? = [] := by
  cases kind with
  | none => cases emitted
  | some bound =>
    cases bound with
    | token =>
      cases emitted
      exact statementLines_singleton _ ▸ calls_writeLexeme _
    | node =>
      cases emitted
      exact statementLines_singleton _ ▸ calls_display _

mutual

/-- At any depth, what is read of the lines of a step are its texts. -/
theorem calls_opStatements (depth : Nat) (kind : Option ItemKind) (op : RenderOp)
    (statements : List Statement) (emitted : opStatements? node kind op = some statements) :
    (statementLines lexeme depth statements).filterMap literalCall? = writes op.texts := by
  match op with
  | .literal text =>
    cases emitted
    exact calls_writeText text
  | .field name => exact calls_field emitted
  | .item => exact calls_item emitted
  | .forEach name body separator =>
    obtain ⟨inner, emittedInner, rfl⟩ := exists_of_opStatements?_forEach emitted
    have inside := calls_statements (depth + 1) (some .node) body inner emittedInner
    rw [statementLines_singleton, calls_forEach, statementLines_append, List.filterMap_append,
      inside, calls_writeText, RenderOp.texts, writes_append]
  | .ifPresent name body =>
    obtain ⟨bound, inner, known, emittedInner, rfl⟩ := exists_of_opStatements?_ifPresent emitted
    have inside := calls_statements (depth + 1) (some bound) body inner emittedInner
    rw [statementLines_singleton, calls_ifPresent, inside, RenderOp.texts]

theorem calls_statements (depth : Nat) (kind : Option ItemKind) (ops : List RenderOp)
    (statements : List Statement) (emitted : statements? node kind ops = some statements) :
    (statementLines lexeme depth statements).filterMap literalCall? = writes (textsOf ops) := by
  match ops with
  | [] =>
    cases emitted
    rfl
  | op :: rest =>
    obtain ⟨first, others, emittedFirst, emittedOthers, rfl⟩ := exists_of_statements?_cons emitted
    have here := calls_opStatements depth kind op first emittedFirst
    have later := calls_statements depth kind rest others emittedOthers
    rw [statementLines_append, List.filterMap_append, here, later, textsOf, writes_append]

end

/-! ### Renderers -/

/-- The lines of a renderer besides those of its body make no call with a literal. -/
theorem calls_renderer (record : Record) :
    (record.renderer lexeme).filterMap literalCall? =
      (record.body.lines lexeme).filterMap literalCall? := by
  have before : record.rendererHead.filterMap literalCall? = [] := by
    have opens : "impl fmt::Display for ".toList <+: ("impl fmt::Display for " ++ record.name ++
        (if record.lifetime then "<'_>" else "") ++ " \x7b").toList := by
      simp
    rw [Record.rendererHead, List.filterMap_cons, literalCall?_other (by decide) opens]
    decide
  have after : [indented 1 "\x7d", "\x7d", ""].filterMap literalCall? = [] := by
    decide
  rw [Record.renderer, List.filterMap_append, List.filterMap_append, before, after,
    List.nil_append, List.append_nil]

/-- What the lines of a node's renderer hold of its literals. A template without arguments is
written as its text, one with arguments as the format itself, which is read there as the check has
read it. A program has one literal for each text that is not empty, in their order. -/
def Node.LiteralsIn (node : Node) (lines : List String) : Prop :=
  match node.render with
  | .template format [] => ∃ segments literal, Template.parse format = .ok segments ∧
      lines.filterMap literalCall? = [.write literal] ∧
      Text.Denotes literal (Template.text segments)
  | .template format (_ :: _) => ∃ segments pieces literal,
      Template.parse format = .ok segments ∧ lines.filterMap literalCall? = [.format literal] ∧
      Text.Denotes literal format ∧ formatPieces? format.toList = some pieces ∧
      Template.join pieces = segments
  | .custom ops => ∃ literals, lines.filterMap literalCall? = literals.map .write ∧
      List.Forall₂ Text.Denotes literals ((textsOf ops).filter (· ≠ ""))

theorem calls_text (shown : String) :
    ((Body.text shown).lines lexeme).filterMap literalCall? = [.write (Text.quoted shown)] := by
  rw [Body.lines, List.filterMap_cons, literalCall?_indented, literalCall?_write,
    List.filterMap_nil]

theorem calls_format (format : String) (operands : List Operand) :
    ((Body.format format operands).lines lexeme).filterMap literalCall? =
      [.format (Text.quoted format)] := by
  rw [Body.lines, List.filterMap_cons, literalCall?_indented, String.append_assoc,
    String.append_assoc, literalCall?_format, List.filterMap_nil]

theorem calls_block_body {ops : List RenderOp}
    (emitted : statements? node none ops = some statements) :
    ((Body.block (if ops.isEmpty then .touch :: statements else statements)).lines
      lexeme).filterMap literalCall? = writes (textsOf ops) := by
  have inside : (statementLines lexeme 2 statements).filterMap literalCall? =
      writes (textsOf ops) :=
    calls_statements 2 none ops statements emitted
  have after : [indented 2 "Ok(())"].filterMap literalCall? = [] := by
    decide
  rw [Body.lines, List.filterMap_append, after, List.append_nil, ← inside]
  split
  next =>
    rw [statementLines, Statement.lines, List.singleton_append]
    exact filterMap_other (by decide : StartsOther "let _ = f;".toList) List.prefix_rfl
  next => rfl

theorem literalsIn_renderer {record : Record} (body : node.body? = some record.body) :
    node.LiteralsIn (record.renderer lexeme) := by
  unfold Node.body? at body
  unfold Node.LiteralsIn
  split
  next format render =>
    simp only [render, templateBody?] at body
    split at body
    next => cases body
    next segments parsed =>
      obtain same := Option.some.inj body
      refine ⟨segments, _, parsed, ?_, Text.denotes_quoted _⟩
      rw [calls_renderer, ← same]
      exact calls_text _
  next format arg args render =>
    simp only [render, templateBody?] at body
    split at body
    next => cases body
    next segments parsed =>
      obtain ⟨pieces, read, joined⟩ := map_eq_ok_iff.mp parsed
      obtain ⟨operands, -, same⟩ := Option.map_eq_some_iff.mp body
      refine ⟨segments, pieces, _, parsed, ?_, Text.denotes_quoted format,
        formatPieces?_of_pieces read, joined⟩
      rw [calls_renderer, ← same]
      exact calls_format _ _
  next ops render =>
    simp only [render] at body
    obtain ⟨statements, emitted, same⟩ := Option.bind_eq_some_iff.mp body
    refine ⟨((textsOf ops).filter (· ≠ "")).map Text.quoted, ?_, ?_⟩
    · rw [calls_renderer, ← Option.some.inj same, calls_block_body emitted, writes, List.map_map]
      rfl
    · exact List.forall₂_map_left_iff.mpr
        (List.forall₂_same.mpr fun text _ => Text.denotes_quoted text)

/-! ### Units -/

/-- The lines stand in the source of the unit, one after the other. -/
def SourceUnit.HasLines (unit : SourceUnit) (lines : List String) : Prop :=
  ∃ before after, unit.source = before ++ String.join (lines.map (· ++ "\n")) ++ after

theorem Source.File.record_infix {file : File} {record : Record} (among : record ∈ file.records) :
    record.definition ++ record.constructors file ++ record.renderer file.lexeme <:+:
      file.lines := by
  have inside : record.definition ++ record.constructors file ++ record.renderer file.lexeme <:+:
      file.records.flatMap fun record =>
        record.definition ++ record.constructors file ++ record.renderer file.lexeme := by
    rw [List.flatMap_def]
    exact List.infix_of_mem_flatten (List.mem_map_of_mem among)
  exact inside.trans (List.suffix_append _ _).isInfix

theorem Source.File.renderer_infix {file : File} {record : Record}
    (among : record ∈ file.records) : record.renderer file.lexeme <:+: file.lines :=
  (List.suffix_append _ _).isInfix.trans (File.record_infix among)

theorem Source.File.hasLines_of_infix {file : File} {lines : List String}
    (inside : lines <:+: file.lines) : file.unit.HasLines lines := by
  obtain ⟨front, back, same⟩ := inside
  refine ⟨String.join (front.map (· ++ "\n")), String.join (back.map (· ++ "\n")), ?_⟩
  rw [unit, text, ← same, List.map_append, List.map_append, String.join_append,
    String.join_append]

namespace Schema

/-- Every literal, separator and template of an accepted schema stands in the unit of its category
as a string literal on one line that means the same there. -/
theorem units_literalsIn {schema : Schema} {index : Index} (checked : schema.check = .ok index) :
    ∃ units, schema.units = .ok units ∧
      ∀ (c : Nat) (category : Category), schema.categories[c]? = some category →
        ∃ unit, units[c]? = some unit ∧ ∀ node ∈ category.nodes,
          ∃ record, node.record? schema.collaborators = some record ∧
            unit.HasLines (record.renderer schema.collaborators.lexeme) ∧
            node.LiteralsIn (record.renderer schema.collaborators.lexeme) := by
  obtain ⟨files, made, hasFiles⟩ := exists_files checked
  refine ⟨_, units_eq_ok_iff.mpr ⟨files, made, rfl⟩, fun c category found => ?_⟩
  obtain ⟨file, place, isOf⟩ := hasFiles.exists_file found
  refine ⟨file.unit, by rw [List.getElem?_map, place, Option.map_some], fun node member => ?_⟩
  obtain ⟨n, inside⟩ := List.mem_iff_getElem?.mp member
  obtain ⟨record, among, isRecord⟩ := isOf.exists_record inside
  refine ⟨record, Node.record?_eq_some_iff.mpr isRecord, ?_, literalsIn_renderer isRecord.body⟩
  rw [← isOf.lexeme]
  exact File.hasLines_of_infix (File.renderer_infix among)

/-- The texts of a loop and around it, the last one written before the loop's own, and a format with
doubled braces. -/
theorem units_literalsIn_of_quotes :
    let block : Node := ⟨"BlockStmt", "Block", [⟨"items", .sequence "Stmt"⟩],
      .custom [.literal "say \"hi\"\n", .forEach "items" [.literal "\t\\", .item] "\u2028",
        .literal ""]⟩
    let exit : Node := ⟨"ExitStmt", "Exit", [⟨"code", .token⟩],
      .template "\x7b\x7b\x7b\x7d\x7d\x7d\x00" ["code"]⟩
    let schema : Schema := ⟨{}, [⟨"Stmt", none, [block, exit]⟩]⟩
    ∃ index units unit, schema.check = .ok index ∧ schema.units = .ok units ∧
      units[0]? = some unit ∧
      (∃ lines literals, unit.HasLines lines ∧
        lines.filterMap literalCall? = literals.map .write ∧
        List.Forall₂ Text.Denotes literals ["say \"hi\"\n", "\t\\", "\u2028"]) ∧
      ∃ lines literal pieces, unit.HasLines lines ∧
        lines.filterMap literalCall? = [.format literal] ∧
        Text.Denotes literal "\x7b\x7b\x7b\x7d\x7d\x7d\x00" ∧
        formatPieces? "\x7b\x7b\x7b\x7d\x7d\x7d\x00".toList = some pieces ∧
        Template.join pieces = [.text "\x7b", .placeholder, .text "\x7d\x00"] := by
  intro block exit schema
  have checked : schema.check = .ok ⟨[("ExitStmt", .record 0 1), ("BlockStmt", .record 0 0),
      ("Stmt", .union 0)]⟩ :=
    check_eq_ok_of_flat (by decide +kernel) (by decide +kernel) (by decide +kernel)
  obtain ⟨units, made, each⟩ := units_literalsIn checked
  obtain ⟨unit, place, holds⟩ := each 0 _ rfl
  obtain ⟨blockRecord, -, blockLines, literals, calls, denote⟩ := holds block List.mem_cons_self
  obtain ⟨exitRecord, -, exitLines, segments, pieces, literal, parsed, call, denotes, read, joined⟩ :=
    holds exit (List.mem_cons_of_mem _ List.mem_cons_self)
  have known : Template.parse "\x7b\x7b\x7b\x7d\x7d\x7d\x00" =
      .ok [.text "\x7b", .placeholder, .text "\x7d\x00"] := by
    decide +kernel
  obtain rfl := Except.ok.inj (parsed.symm.trans known)
  exact ⟨_, units, unit, checked, made, place, ⟨_, literals, blockLines, calls, denote⟩,
    _, literal, pieces, exitLines, call, denotes, read, joined⟩

end Schema

end TreeSchema
