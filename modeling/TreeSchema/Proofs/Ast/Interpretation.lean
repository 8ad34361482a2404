import TreeSchema.Ast.Record
import TreeSchema.Ast.Schemas
import TreeSchema.Proofs.Render.Meaning

/-!
What a schema says about a tree of any shape. The tree is taken as records: each shows what the
rendering program of its node means for the values of its fields, the records below among them.
-/

namespace TreeSchema.Ast

/-- The node of a record that stands where `target` is named. With a tag the target is the union,
without it the record itself. -/
def nodeOf? (schema : Schema) (target : String) (tag : Option String) (name : String) :
    Option Node :=
  match tag with
  | some tag => do
    let category ← schema.categories.find? (·.name = target)
    category.nodes.find? fun node => node.tag = tag ∧ node.name = name
  | none =>
    if name = target then (schema.categories.flatMap (·.nodes)).find? (·.name = name) else none

mutual

/-- What a value shows in a field of the type. -/
def Value.shown? (schema : Schema) : FieldType → Value → Option FieldValue
  | .token, .token token => some (.one (.token token.lexeme))
  | .optionalToken, .optionalToken token? =>
    some (.optional (token?.map fun token => .token token.lexeme))
  | .primitive .f64, .float value => some (.one (.display (floatDisplay.write value)))
  | .primitive .i64, .integer value => some (.one (.display (toString value)))
  | .primitive .bool, .boolean value => some (.one (.display (toString value)))
  | .primitive .atom, .atom atom => some (.one (.display atom.text))
  | .node target, .node record =>
    (record.shown? schema target).map fun text => .one (.display text)
  | .optionalNode _, .absent => some (.optional none)
  | .optionalNode target, .present record =>
    (record.shown? schema target).map fun text => .optional (some (.display text))
  | .sequence target, .sequence records =>
    (recordsShown? schema target records).map fun texts => .sequence (texts.map .display)
  | _, _ => none

/-- What a record shows where `target` is named. Its fields are those of its node, in order. -/
def Record.shown? (schema : Schema) (target : String) : Record → Option String
  | .mk tag name values => do
    let node ← nodeOf? schema target tag name
    let shown ← fieldsShown? schema node.fields values
    node.meaning? shown

def fieldsShown? (schema : Schema) : List Field → List (String × Value) → Option Values
  | [], [] => some []
  | field :: fields, (name, value) :: rest =>
    if name = field.name then do
      let first ← value.shown? schema field.type
      let others ← fieldsShown? schema fields rest
      return (name, first) :: others
    else none
  | [], _ :: _ | _ :: _, [] => none

def recordsShown? (schema : Schema) (target : String) : List Record → Option (List String)
  | [] => some []
  | record :: rest => do
    let first ← record.shown? schema target
    let others ← recordsShown? schema target rest
    return first :: others

end

variable {schema : Schema} {target name : String} {tag : Option String} {node : Node}
  {values : List (String × Value)}

/-! ### Conformance -/

theorem Value.holds_of_shown? {value : Value} {type : FieldType} {shown : FieldValue}
    (shows : value.shown? schema type = some shown) : type.Holds shown := by
  unfold Value.shown? at shows
  split at shows
  case h_1 token =>
    obtain rfl := Option.some.inj shows
    exact .token token.lexeme
  case h_2 token? =>
    obtain rfl := Option.some.inj shows
    simpa [Function.comp_def] using FieldType.Holds.optionalToken (token?.map Token.lexeme)
  case h_3 | h_4 | h_5 | h_6 =>
    obtain rfl := Option.some.inj shows
    exact .primitive _ _
  case h_7 target record =>
    obtain ⟨text, -, rfl⟩ := Option.map_eq_some_iff.mp shows
    exact .node target text
  case h_8 target =>
    obtain rfl := Option.some.inj shows
    exact .optionalNode target none
  case h_9 target record =>
    obtain ⟨text, -, rfl⟩ := Option.map_eq_some_iff.mp shows
    exact .optionalNode target (some text)
  case h_10 target records =>
    obtain ⟨texts, -, rfl⟩ := Option.map_eq_some_iff.mp shows
    exact .sequence target texts
  case h_11 => cases shows

theorem conform_of_fieldsShown? {fields : List Field} {shown : Values}
    (shows : fieldsShown? schema fields values = some shown) : shown.Conform fields := by
  induction fields generalizing values shown with
  | nil =>
    cases values with
    | nil =>
      obtain rfl := Option.some.inj shows
      exact .nil
    | cons => cases shows
  | cons field fields ih =>
    cases values with
    | nil => cases shows
    | cons entry rest =>
      obtain ⟨name, value⟩ := entry
      simp only [fieldsShown?] at shows
      split at shows
      next same =>
        obtain ⟨first, firstShown, shows⟩ := Option.bind_eq_some_iff.mp shows
        obtain ⟨others, othersShown, shows⟩ := Option.bind_eq_some_iff.mp shows
        obtain rfl := Option.some.inj shows
        exact .cons ⟨same, Value.holds_of_shown? firstShown⟩ (ih othersShown)
      next => cases shows

/-! ### Known nodes -/

theorem Record.shown?_of_node (node : Node) (found : nodeOf? schema target tag name = some node) :
    (Record.mk tag name values).shown? schema target =
      (fieldsShown? schema node.fields values).bind node.meaning? := by
  simp [Record.shown?, found]

end TreeSchema.Ast
