import TreeSchema.Proofs.Render.Running
import TreeSchema.Proofs.Schema.Programs

/-!
Rendering programs and their statements. Statements exist for every program that passes the check,
and running them writes what the program means: the name of the item stands for the innermost item
wherever it is used.
-/

namespace TreeSchema

open Source

variable {node : Node} {values : Values} {name : String} {field : Field}

/-! ### Fields -/

theorem Values.Conform.lookup (conform : values.Conform node.fields)
    (found : node.field? name = some field) :
    ∃ value, values.lookup name = some value ∧ field.type.Holds value := by
  unfold Node.field? at found
  unfold Conform at conform
  generalize node.fields = fields at conform found
  induction conform with
  | nil => simp at found
  | @cons first value rest others head _ ih =>
    obtain ⟨key, value⟩ := value
    obtain ⟨rfl, holds⟩ := head
    by_cases same : first.name = name
    · rw [List.find?_cons_of_pos (by simpa using same)] at found
      obtain rfl := Option.some.inj found
      subst same
      exact ⟨value, List.lookup_cons_self, holds⟩
    · rw [List.find?_cons_of_neg (by simpa using same)] at found
      obtain ⟨held, known, holds⟩ := ih found
      refine ⟨held, ?_, holds⟩
      rwa [List.lookup_cons, beq_false_of_ne (Ne.symm same)]

theorem Node.HasField.exists_field? {kind : FieldType → Bool}
    (distinct : (node.fields.map (·.name)).Nodup) (h : node.HasField kind name) :
    ∃ field, node.field? name = some field ∧ kind field.type = true := by
  obtain ⟨field, member, named, fits⟩ := h
  exact ⟨field, (Node.field?_eq_some_iff distinct).mpr ⟨member, named⟩, fits⟩

/-- What kind of item is bound, and the item. -/
inductive Binding : Option ItemKind → Option Item → Prop
  | none : Binding none none
  | token (lexeme : String) : Binding (some .token) (some (.token lexeme))
  | node (text : String) : Binding (some .node) (some (.display text))

/-! ### Statements exist -/

theorem opStatements?_field (kind : Option ItemKind) (found : node.field? name = some field) :
    opStatements? node kind (.field name) = some
      [if field.type = .token then .writeLexeme (.field name) else .display (.field name)] := by
  rw [opStatements?, found, Option.bind_eq_bind, Option.bind_some]
  split
  next token => rw [if_pos token]; rfl
  next other => rw [if_neg other]; rfl

theorem boundBy?_of_hasField (distinct : (node.fields.map (·.name)).Nodup)
    (h : node.HasField FieldType.isOptional name) : ∃ kind, boundBy? node name = some kind := by
  obtain ⟨field, found, optional⟩ := h.exists_field? distinct
  unfold boundBy?
  rw [found]
  cases type : field.type <;> simp_all [FieldType.isOptional]

mutual

theorem exists_opStatements? (distinct : (node.fields.map (·.name)).Nodup) (kind : Option ItemKind)
    (op : RenderOp) (checked : checkOp node kind.isSome op = .ok ()) :
    ∃ statements, opStatements? node kind op = some statements := by
  obtain ⟨fits, inside⟩ := (checkOp_eq_ok_iff distinct).mp checked
  match op with
  | .literal text => exact ⟨_, rfl⟩
  | .field name =>
    obtain ⟨field, found, -⟩ := fits.exists_field? distinct
    exact ⟨_, opStatements?_field kind found⟩
  | .item =>
    match kind with
    | none => cases fits
    | some .token | some .node => exact ⟨_, rfl⟩
  | .forEach name body separator =>
    obtain ⟨statements, emitted⟩ := exists_statements? distinct (some .node) body inside
    rw [opStatements?, emitted]
    exact ⟨_, rfl⟩
  | .ifPresent name body =>
    obtain ⟨bound, known⟩ := boundBy?_of_hasField distinct fits
    obtain ⟨statements, emitted⟩ := exists_statements? distinct (some bound) body inside
    rw [opStatements?, known]
    simp [emitted]

theorem exists_statements? (distinct : (node.fields.map (·.name)).Nodup) (kind : Option ItemKind)
    (ops : List RenderOp) (checked : checkOps node kind.isSome ops = .ok ()) :
    ∃ statements, statements? node kind ops = some statements := by
  match ops with
  | [] => exact ⟨[], rfl⟩
  | op :: rest =>
    rw [checkOps, seq_eq_ok_iff] at checked
    obtain ⟨first, emitted⟩ := exists_opStatements? distinct kind op checked.1
    obtain ⟨others, later⟩ := exists_statements? distinct kind rest checked.2
    rw [statements?, emitted, Option.bind_eq_bind, Option.bind_some, later]
    exact ⟨first ++ others, rfl⟩

end

/-! ### What statements are made of -/

section Made

variable {kind : Option ItemKind} {op : RenderOp} {body rest : List RenderOp} {separator : String}
  {statements : List Statement}

theorem exists_of_opStatements?_field
    (emitted : opStatements? node kind (.field name) = some statements) :
    ∃ field, node.field? name = some field ∧ statements =
      [if field.type = .token then .writeLexeme (.field name) else .display (.field name)] := by
  obtain ⟨field, found, -⟩ := Option.bind_eq_some_iff.mp emitted
  rw [opStatements?_field kind found] at emitted
  exact ⟨field, found, (Option.some.inj emitted).symm⟩

theorem exists_of_opStatements?_forEach
    (emitted : opStatements? node kind (.forEach name body separator) = some statements) :
    ∃ inner, statements? node (some .node) body = some inner ∧
      statements = [.forEach (bindsItem body) name
        (inner ++ if separator.isEmpty then [] else [.writeText separator])] := by
  rw [opStatements?] at emitted
  obtain ⟨inner, emittedInner, same⟩ := Option.bind_eq_some_iff.mp emitted
  exact ⟨inner, emittedInner, (Option.some.inj same).symm⟩

theorem exists_of_opStatements?_ifPresent
    (emitted : opStatements? node kind (.ifPresent name body) = some statements) :
    ∃ bound inner, boundBy? node name = some bound ∧
      statements? node (some bound) body = some inner ∧
      statements = [.ifPresent (bindsItem body) name inner] := by
  rw [opStatements?] at emitted
  obtain ⟨bound, known, emitted⟩ := Option.bind_eq_some_iff.mp emitted
  obtain ⟨inner, emittedInner, same⟩ := Option.bind_eq_some_iff.mp emitted
  exact ⟨bound, inner, known, emittedInner, (Option.some.inj same).symm⟩

theorem exists_of_statements?_cons
    (emitted : statements? node kind (op :: rest) = some statements) :
    ∃ first others, opStatements? node kind op = some first ∧
      statements? node kind rest = some others ∧ statements = first ++ others := by
  rw [statements?] at emitted
  obtain ⟨first, emittedFirst, emitted⟩ := Option.bind_eq_some_iff.mp emitted
  obtain ⟨others, emittedOthers, same⟩ := Option.bind_eq_some_iff.mp emitted
  exact ⟨first, others, emittedFirst, emittedOthers, (Option.some.inj same).symm⟩

end Made

/-! ### Running them -/

section Running

variable {kind : Option ItemKind} {item? bound? : Option Item} {first second : String}
  {statements front back : List Statement}

theorem runAll?_append (ahead : runAll? values bound? front = some first)
    (after : runAll? values bound? back = some second) :
    runAll? values bound? (front ++ back) = some (first ++ second) := by
  induction front generalizing first with
  | nil =>
    obtain rfl : "" = first := Option.some.inj ahead
    rw [List.nil_append, after, String.empty_append]
  | cons statement rest ih =>
    rw [runAll?] at ahead
    obtain ⟨one, ran, ahead⟩ := Option.bind_eq_some_iff.mp ahead
    obtain ⟨others, more, same⟩ := Option.bind_eq_some_iff.mp ahead
    obtain rfl : one ++ others = first := Option.some.inj same
    rw [List.cons_append, runAll?, ran, ih more, String.append_assoc]
    rfl

theorem runAll?_singleton {statement : Statement} :
    runAll? values bound? [statement] = statement.run? values bound? := by
  rw [runAll?, runAll?]
  cases statement.run? values bound? <;> simp

/-- A text that is left out if it is empty is written all the same. -/
theorem runAll?_writeText (text : String) :
    runAll? values bound? (if text.isEmpty then [] else [.writeText text]) = some text := by
  split
  next empty =>
    obtain rfl : text = "" := by simpa using empty
    rfl
  next => rw [runAll?_singleton, Statement.run?]

theorem agree_field (distinct : (node.fields.map (·.name)).Nodup)
    (conform : values.Conform node.fields) (fits : node.HasField FieldType.isDisplayable name)
    (emitted : opStatements? node kind (.field name) = some statements) :
    ∃ text, (RenderOp.field name).meaning? values item? = some text ∧
      runAll? values bound? statements = some text := by
  obtain ⟨field, found, displayable⟩ := fits.exists_field? distinct
  obtain ⟨value, known, holds⟩ := conform.lookup found
  rw [opStatements?_field kind found, Option.some.injEq] at emitted
  subst emitted
  rw [runAll?_singleton, RenderOp.meaning?, Values.text?, known]
  generalize field.type = type at displayable holds
  cases holds with
  | token lexeme => exact ⟨lexeme, rfl, by simp [Statement.run?, Place.item?, known, lexeme?]⟩
  | primitive kind text | node target text =>
    exact ⟨text, rfl, by simp [Statement.run?, Place.item?, known, display?]⟩
  | optionalToken | optionalNode | sequence => cases displayable

theorem agree_item (binding : Binding kind item?)
    (emitted : opStatements? node kind .item = some statements) :
    ∃ text, RenderOp.item.meaning? values item? = some text ∧
      runAll? values item? statements = some text := by
  cases binding with
  | none => cases emitted
  | token lexeme | node text =>
    cases emitted
    exact ⟨_, rfl, runAll?_singleton⟩

variable {body : List RenderOp} {inner : List Statement}

theorem agree_forEach (distinct : (node.fields.map (·.name)).Nodup)
    (conform : values.Conform node.fields) (fits : node.HasField FieldType.isSequence name)
    (separator : String)
    (each : ∀ item, Binding (some .node) (some item) → ∃ text,
      meanings? values (some item) body = some text ∧
      runAll? values (if bindsItem body then some item else bound?) inner = some text) :
    ∃ text, (RenderOp.forEach name body separator).meaning? values item? = some text ∧
      runAll? values bound? [.forEach (bindsItem body) name
        (inner ++ if separator.isEmpty then [] else [.writeText separator])] = some text := by
  obtain ⟨field, found, isSequence⟩ := fits.exists_field? distinct
  obtain ⟨value, known, holds⟩ := conform.lookup found
  generalize field.type = type at isSequence holds
  cases holds with
  | sequence target texts =>
    have separated : ∀ item ∈ texts.map Item.display, ∃ text,
        (meanings? values (some item) body).map (· ++ separator) = some text ∧
        runAll? values (if bindsItem body then some item else bound?)
          (inner ++ if separator.isEmpty then [] else [.writeText separator]) = some text := by
      intro item member
      obtain ⟨shown, -, rfl⟩ := List.mem_map.mp member
      obtain ⟨text, meaning, run⟩ := each (.display shown) (.node shown)
      refine ⟨text ++ separator, ?_, runAll?_append run (runAll?_writeText separator)⟩
      rw [meaning, Option.map_some]
    obtain ⟨shown, both⟩ := exists_forall₂ separated
    have meant := mapM_eq_some_iff_forall₂.mpr (both.imp fun _ _ => And.left)
    have written := mapM_eq_some_iff_forall₂.mpr (both.imp fun _ _ => And.right)
    refine ⟨String.join shown, ?_, ?_⟩
    · simp only [RenderOp.meaning?, known, meant, Option.map_some]
    · rw [runAll?_singleton]
      simp only [Statement.run?, known, written, Option.map_some]
  | token | optionalToken | primitive | node | optionalNode => cases isSequence

theorem agree_ifPresent (conform : values.Conform node.fields) {kind : ItemKind}
    (known : boundBy? node name = some kind)
    (present : ∀ item, Binding (some kind) (some item) → ∃ text,
      meanings? values (some item) body = some text ∧
      runAll? values (if bindsItem body then some item else bound?) inner = some text) :
    ∃ text, (RenderOp.ifPresent name body).meaning? values item? = some text ∧
      runAll? values bound? [.ifPresent (bindsItem body) name inner] = some text := by
  obtain ⟨field, found, binds⟩ := Option.bind_eq_some_iff.mp known
  obtain ⟨value, known, holds⟩ := conform.lookup found
  simp only [runAll?_singleton, RenderOp.meaning?, Statement.run?, known]
  generalize field.type = type at binds holds
  cases holds with
  | optionalToken lexeme? =>
    cases binds
    cases lexeme? with
    | none => exact ⟨"", rfl, rfl⟩
    | some lexeme => exact present _ (.token lexeme)
  | optionalNode target text? =>
    cases binds
    cases text? with
    | none => exact ⟨"", rfl, rfl⟩
    | some text => exact present _ (.node text)
  | token | primitive | node | sequence => cases binds

end Running

theorem bindsItem_cons (op : RenderOp) (rest : List RenderOp) :
    bindsItem (op :: rest) = ((op matches .item) || bindsItem rest) :=
  rfl

/-! Steps and their statements agree if the name of the item stands for the innermost item wherever
the steps use it themselves. Inside a block it does if the block binds it, and a block binds it
exactly if its own steps use it. -/

mutual

theorem agree_op (distinct : (node.fields.map (·.name)).Nodup)
    (conform : values.Conform node.fields) (kind : Option ItemKind) (item? bound? : Option Item)
    (binding : Binding kind item?) (op : RenderOp) (visible : op = .item → bound? = item?)
    (checked : checkOp node kind.isSome op = .ok ()) (statements : List Statement)
    (emitted : opStatements? node kind op = some statements) :
    ∃ text, op.meaning? values item? = some text ∧
      runAll? values bound? statements = some text := by
  obtain ⟨fits, inside⟩ := (checkOp_eq_ok_iff distinct).mp checked
  match op with
  | .literal text =>
    cases emitted
    exact ⟨text, rfl, runAll?_writeText text⟩
  | .field name => exact agree_field distinct conform fits emitted
  | .item =>
    rw [visible rfl]
    exact agree_item binding emitted
  | .forEach name body separator =>
    obtain ⟨inner, emittedInner, rfl⟩ := exists_of_opStatements?_forEach emitted
    exact agree_forEach distinct conform fits separator fun item binding =>
      agree_ops distinct conform (some .node) (some item) _ binding body (fun uses => if_pos uses)
        inside inner emittedInner
  | .ifPresent name body =>
    obtain ⟨bound, inner, known, emittedInner, rfl⟩ := exists_of_opStatements?_ifPresent emitted
    exact agree_ifPresent conform known fun item binding =>
      agree_ops distinct conform (some bound) (some item) _ binding body (fun uses => if_pos uses)
        inside inner emittedInner

theorem agree_ops (distinct : (node.fields.map (·.name)).Nodup)
    (conform : values.Conform node.fields) (kind : Option ItemKind) (item? bound? : Option Item)
    (binding : Binding kind item?) (ops : List RenderOp)
    (visible : bindsItem ops = true → bound? = item?)
    (checked : checkOps node kind.isSome ops = .ok ()) (statements : List Statement)
    (emitted : statements? node kind ops = some statements) :
    ∃ text, meanings? values item? ops = some text ∧
      runAll? values bound? statements = some text := by
  match ops with
  | [] =>
    cases emitted
    exact ⟨"", rfl, rfl⟩
  | op :: rest =>
    rw [checkOps, seq_eq_ok_iff] at checked
    obtain ⟨first, others, emittedFirst, emittedOthers, rfl⟩ := exists_of_statements?_cons emitted
    have visibleFirst : op = .item → bound? = item? :=
      fun isItem => visible (by rw [bindsItem_cons, isItem, Bool.true_or])
    have visibleRest : bindsItem rest = true → bound? = item? :=
      fun uses => visible (by rw [bindsItem_cons, uses, Bool.or_true])
    obtain ⟨text, meaning, run⟩ := agree_op distinct conform kind item? bound? binding op
      visibleFirst checked.1 first emittedFirst
    obtain ⟨texts, meanings, runs⟩ := agree_ops distinct conform kind item? bound? binding rest
      visibleRest checked.2 others emittedOthers
    refine ⟨text ++ texts, ?_, runAll?_append run runs⟩
    rw [meanings?, meaning, meanings]
    rfl

end

end TreeSchema
