import TreeSchema.Json.Reading
import TreeSchema.Json.Value
import TreeSchema.Schema.Basic

/-!
Schemas as JSON. Printing writes every field but an absent module, in the order of declaration;
loading takes fields in any order and fills in the ones that have a default.
-/

namespace TreeSchema

open Json

/-! ### Printing -/

def Collaborators.toJson (collaborators : Collaborators) : Value :=
  .object [
    ("token", .string collaborators.token),
    ("lexeme", .string collaborators.lexeme),
    ("atom", .string collaborators.atom),
    ("arena", .string collaborators.arena),
    ("sequence", .string collaborators.sequence),
    ("sibling_prefix", .string collaborators.siblingPrefix)]

def Primitive.text : Primitive → String
  | f64 => "f64"
  | i64 => "i64"
  | bool => "bool"
  | atom => "atom"

def FieldType.toJson : FieldType → Value
  | token => .string "token"
  | optionalToken => .string "optional_token"
  | primitive p => .object [("primitive", .string p.text)]
  | node target => .object [("node", .string target)]
  | optionalNode target => .object [("optional_node", .string target)]
  | sequence target => .object [("sequence", .string target)]

def Field.toJson (field : Field) : Value :=
  .object [("name", .string field.name), ("type", field.type.toJson)]

namespace RenderOp

mutual

def toJson : RenderOp → Value
  | literal text => .object [("literal", .string text)]
  | field name => .object [("field", .string name)]
  | item => .string "item"
  | forEach source body separator =>
    .object [("for_each", .object [("field", .string source), ("body", .list (listToJson body)),
      ("separator", .string separator)])]
  | ifPresent source body =>
    .object [("if_present", .object [("field", .string source),
      ("then", .list (listToJson body))])]

def listToJson : List RenderOp → List Value
  | [] => []
  | op :: rest => op.toJson :: listToJson rest

end

end RenderOp

def Render.toJson : Render → Value
  | template format args =>
    .object [("template", .object [("format", .string format),
      ("args", .list (args.map .string))])]
  | custom ops => .object [("custom", .list (RenderOp.listToJson ops))]

def Node.toJson (node : Node) : Value :=
  .object [("name", .string node.name), ("tag", .string node.tag),
    ("fields", .list (node.fields.map Field.toJson)), ("render", node.render.toJson)]

def Category.toJson (category : Category) : Value :=
  .object ([("name", .string category.name)] ++
    (category.module.map fun module => ("module", .string module)).toList ++
    [("nodes", .list (category.nodes.map Node.toJson))])

def Schema.toJson (schema : Schema) : Value :=
  .object [("collaborators", schema.collaborators.toJson),
    ("categories", .list (schema.categories.map Category.toJson))]

/-- The schema as one line of JSON. -/
def Schema.print (schema : Schema) : String :=
  String.ofList schema.toJson.text

/-! ### Loading -/

namespace Json.Document

variable {budget : Nat} {ρ : Type}

/-- A field that holds a text. -/
def textSlot (name : String) (required : Bool) (set : String → ρ → ρ) : Slot budget ρ where
  name
  required
  read _ _ _ document := document.readText.map set

/-- A field that holds a list of texts. -/
def textsSlot (name : String) (set : List String → ρ → ρ) : Slot budget ρ where
  name
  required := true
  read inner _ _ document :=
    (document.readList inner fun _ _ _ item => item.readText).map set

def collaborators (budget : Nat) : Document → Except Fault Collaborators :=
  readRecord budget "struct Collaborators" {} [
    textSlot "token" false fun token c => { c with token },
    textSlot "lexeme" false fun lexeme c => { c with lexeme },
    textSlot "atom" false fun atom c => { c with atom },
    textSlot "arena" false fun arena c => { c with arena },
    textSlot "sequence" false fun sequence c => { c with sequence },
    textSlot "sibling_prefix" false fun siblingPrefix c => { c with siblingPrefix }]

def primitive (budget follow : Nat) : Document → Except Fault Primitive :=
  readChoice budget [
    ("f64", .empty .f64), ("i64", .empty .i64), ("bool", .empty .bool), ("atom", .empty .atom)]
    follow

def fieldType (budget follow : Nat) : Document → Except Fault FieldType :=
  readChoice budget [
    ("token", .empty .token),
    ("optional_token", .empty .optionalToken),
    ("primitive", .single fun inner _ follow document =>
      (document.primitive inner follow).map .primitive),
    ("node", .single fun _ _ _ document => document.readText.map .node),
    ("optional_node", .single fun _ _ _ document => document.readText.map .optionalNode),
    ("sequence", .single fun _ _ _ document => document.readText.map .sequence)]
    follow

def field (budget : Nat) : Document → Except Fault Field :=
  readRecord budget "struct Field" ⟨"", .token⟩ [
    textSlot "name" true fun name f => { f with name },
    { name := "type", required := true, read := fun inner _ follow document =>
        (document.fieldType inner follow).map fun type f => { f with type } }]

/-- The fields of a step that has a body. -/
structure Block where
  field : String
  body : List RenderOp
  separator : String

mutual

/-- Reads a rendering program. -/
def ops (budget : Nat) (document : Document) : Except Fault (List RenderOp) :=
  document.readList budget fun inner _ follow item => item.op inner follow
termination_by (budget, 1)

/-- Reads a step of a rendering program. -/
def op (budget follow : Nat) (document : Document) : Except Fault RenderOp :=
  document.readChoice budget [
    ("literal", .single fun _ _ _ document => document.readText.map .literal),
    ("field", .single fun _ _ _ document => document.readText.map .field),
    ("item", .empty .item),
    ("for_each", .fields fun inner _ _ document => do
      let block ← document.readRecord inner "struct variant RenderOp::ForEach"
        (⟨"", [], ""⟩ : Block) [
        textSlot "field" true fun field b => { b with field },
        { name := "body", required := true, read := fun inner _ _ document =>
            (document.ops inner).map fun body b => { b with body } },
        textSlot "separator" false fun separator b => { b with separator }]
      return .forEach block.field block.body block.separator),
    ("if_present", .fields fun inner _ _ document => do
      let block ← document.readRecord inner "struct variant RenderOp::IfPresent"
        (⟨"", [], ""⟩ : Block) [
        textSlot "field" true fun field b => { b with field },
        { name := "then", required := true, read := fun inner _ _ document =>
            (document.ops inner).map fun body b => { b with body } }]
      return .ifPresent block.field block.body)]
    follow
termination_by (budget, 0)

end

/-- The fields of a template. -/
structure Format where
  format : String
  args : List String

def render (budget follow : Nat) : Document → Except Fault Render :=
  readChoice budget [
    ("template", .fields fun inner _ _ document => do
      let template ← document.readRecord inner "struct variant Render::Template"
        ⟨"", []⟩ [
        textSlot "format" true fun format (t : Format) => { t with format },
        textsSlot "args" fun args t => { t with args }]
      return .template template.format template.args),
    ("custom", .single fun inner _ _ document => (document.ops inner).map .custom)]
    follow

def node (budget : Nat) : Document → Except Fault Node :=
  readRecord budget "struct Node" (.new "" "") [
    textSlot "name" true fun name n => { n with name },
    textSlot "tag" true fun tag n => { n with tag },
    { name := "fields", required := false, read := fun inner _ _ document =>
        (document.readList inner fun inner _ _ item => item.field inner).map
          fun fields n => { n with fields } },
    { name := "render", required := true, read := fun inner _ follow document =>
        (document.render inner follow).map fun render n => { n with render } }]

def category (budget : Nat) : Document → Except Fault Category :=
  readRecord budget "struct Category" (.new "") [
    textSlot "name" true fun name c => { c with name },
    { name := "module", required := false, read := fun _ _ _ document =>
        document.readText?.map fun module c => { c with module } },
    { name := "nodes", required := true, read := fun inner _ _ document =>
        (document.readList inner fun inner _ _ item => item.node inner).map
          fun nodes c => { c with nodes } }]

def schema (budget : Nat) : Document → Except Fault Schema :=
  readRecord budget "struct Schema" .empty [
    { name := "collaborators", required := false, read := fun inner _ _ document =>
        (document.collaborators inner).map fun collaborators s => { s with collaborators } },
    { name := "categories", required := true, read := fun inner _ _ document =>
        (document.readList inner fun inner _ _ item => item.category inner).map
          fun categories s => { s with categories } }]

end Json.Document

/-- How many brackets may be open at a time. -/
def maxDepth : Nat := 127

/-- A fault of a text with the line and column it is reported at. -/
structure LoadFault where
  cause : Cause
  line : Nat
  column : Nat
  deriving DecidableEq, Repr

def LoadFault.message (fault : LoadFault) : String :=
  s!"{fault.cause.message} at line {fault.line} column {fault.column}"

/-- Loads a schema from the characters of a JSON text. -/
def Schema.ofChars (text : List Char) : Except Fault Schema := do
  let (document, surplus?) := Document.ofText text
  let schema ← document.schema maxDepth
  refuse (surplus?.map fun start => ⟨.trailingCharacters, start + 1⟩)
  return schema

/-- Loads a schema from a JSON text. -/
def Schema.load (text : String) : Except LoadFault Schema :=
  match Schema.ofChars text.toList with
  | .ok schema => .ok schema
  | .error fault =>
    let (line, column) := Text.lineAndColumn text.toList fault.offset
    .error ⟨fault.cause, line, column⟩

end TreeSchema
