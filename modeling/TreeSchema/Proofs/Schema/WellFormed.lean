import Mathlib.Logic.Relation
import TreeSchema.Schema.Check

/-!
Well-formed schemas, as the rules say it: what names may be, what they stand for, what fields may
refer to, what rendering programs may use, and that no record holds itself by value.
-/

namespace TreeSchema

/-! ### Names -/

/-- The name is written in the style, and neither a keyword nor taken. -/
structure NameStyle.Admits (style : NameStyle) (taken : List String) (name : String) : Prop where
  written : style.accepts name = true
  noKeyword : name ∉ keywords
  free : name ∉ taken

structure Node.WellNamed (reserved : List String) (node : Node) : Prop where
  name : NameStyle.pascal.Admits reserved node.name
  tag : NameStyle.pascal.Admits [] node.tag
  fields : ∀ field ∈ node.fields, NameStyle.snake.Admits [arenaParameter] field.name
  distinct : (node.fields.map (·.name)).Nodup

structure Category.WellNamed (reserved : List String) (category : Category) : Prop where
  name : NameStyle.pascal.Admits reserved category.name
  module : NameStyle.snake.Admits [] category.moduleName
  nonempty : category.nodes ≠ []
  nodes : ∀ node ∈ category.nodes, node.WellNamed reserved
  tags : (category.nodes.map (·.tag)).Nodup

namespace Schema

/-- The schema has the name at a place where names are written in the style and where keywords and
the taken names are refused. -/
inductive Writes (schema : Schema) : NameStyle → List String → String → Prop
  | category {category : Category} (among : category ∈ schema.categories) :
    Writes schema .pascal schema.collaborators.reservedNames category.name
  | module {category : Category} (among : category ∈ schema.categories) :
    Writes schema .snake [] category.moduleName
  | record {category : Category} {node : Node} (among : category ∈ schema.categories)
    (member : node ∈ category.nodes) :
    Writes schema .pascal schema.collaborators.reservedNames node.name
  | tag {category : Category} {node : Node} (among : category ∈ schema.categories)
    (member : node ∈ category.nodes) : Writes schema .pascal [] node.tag
  | field {category : Category} {node : Node} {field : Field}
    (among : category ∈ schema.categories) (member : node ∈ category.nodes)
    (inside : field ∈ node.fields) : Writes schema .snake [arenaParameter] field.name

/-- The names of categories and records in schema order. -/
def typeNames (schema : Schema) : List String :=
  schema.categories.flatMap fun category => category.name :: category.nodes.map (·.name)

/-- What stands at a position of the schema has this name. -/
inductive Declares (schema : Schema) : String → Target → Prop
  | union {c : Nat} {category : Category} (found : schema.categories[c]? = some category) :
    Declares schema category.name (.union c)
  | record {c n : Nat} {category : Category} {node : Node}
    (found : schema.categories[c]? = some category) (inside : category.nodes[n]? = some node) :
    Declares schema node.name (.record c n)

/-! ### References -/

/-- What a field of category `c` may refer to: what is declared up to there. A record must refer to
something itself, or it has no lifetime. -/
inductive Reaches (schema : Schema) (c : Nat) (name : String) : Prop
  | union {d : Nat} {category : Category} (found : schema.categories[d]? = some category)
    (upTo : d ≤ c) (named : category.name = name)
  | record {d : Nat} {category : Category} {node : Node} {field : Field}
    (found : schema.categories[d]? = some category) (upTo : d ≤ c)
    (inside : node ∈ category.nodes) (named : node.name = name)
    (member : field ∈ node.fields) (refers : field.type.target? ≠ none)

/-- The record at the first position holds the one at the second by value. -/
def Embeds (schema : Schema) (holder held : Nat × Nat) : Prop :=
  ∃ node record, schema.node? holder.1 holder.2 = some node ∧
    schema.node? held.1 held.2 = some record ∧
    ∃ field ∈ node.fields, field.type.embeds? = some record.name

end Schema

/-! ### Rendering programs -/

/-- The node has a field of this name and of such a type. -/
def Node.HasField (node : Node) (kind : FieldType → Bool) (name : String) : Prop :=
  ∃ field ∈ node.fields, field.name = name ∧ kind field.type = true

namespace RenderOp

/-- The steps inside a step. -/
def steps : RenderOp → List RenderOp
  | .forEach _ body _ | .ifPresent _ body => body
  | .literal _ | .field _ | .item => []

/-- The step occurs in the program, at any depth. The last flag tells whether an item is bound
where it occurs, the first whether one is bound around the program. -/
inductive Occurs : Bool → List RenderOp → RenderOp → Bool → Prop
  | here {bound : Bool} {ops : List RenderOp} {op : RenderOp} (member : op ∈ ops) :
    Occurs bound ops op bound
  | inside {bound inner : Bool} {ops : List RenderOp} {parent op : RenderOp}
    (member : parent ∈ ops) (occurs : Occurs true parent.steps op inner) :
    Occurs bound ops op inner

/-- The step uses what there is: fields of its kind, and an item only where one is bound. -/
def Fits (node : Node) (bound : Bool) : RenderOp → Prop
  | .literal _ => True
  | .field name => node.HasField FieldType.isDisplayable name
  | .item => bound = true
  | .forEach name _ _ => node.HasField FieldType.isSequence name
  | .ifPresent name _ => node.HasField FieldType.isOptional name

end RenderOp

/-- A template has an argument for each of its places; a program uses what there is. -/
def Node.WellRendered (node : Node) : Prop :=
  match node.render with
  | .template format args => ∃ segments, Template.parse format = .ok segments ∧
      Template.placeholders segments = args.length ∧
      ∀ arg ∈ args, node.HasField FieldType.isDisplayable arg
  | .custom ops => ∀ op bound, RenderOp.Occurs false ops op bound → op.Fits node bound

/-- The rules of schemas. -/
structure Schema.WellFormed (schema : Schema) : Prop where
  categories : ∀ category ∈ schema.categories,
    category.WellNamed schema.collaborators.reservedNames
  modules : (schema.categories.map (·.moduleName)).Nodup
  names : schema.typeNames.Nodup
  targets : ∀ c category, schema.categories[c]? = some category → ∀ node ∈ category.nodes,
    ∀ field ∈ node.fields, ∀ name, field.type.target? = some name → schema.Reaches c name
  renders : ∀ category ∈ schema.categories, ∀ node ∈ category.nodes, node.WellRendered
  acyclic : ∀ position, ¬Relation.TransGen schema.Embeds position position

theorem Schema.WellFormed.admits {schema : Schema} {style : NameStyle} {taken : List String}
    {name : String} (wellFormed : schema.WellFormed) (writes : schema.Writes style taken name) :
    style.Admits taken name := by
  cases writes with
  | category among => exact (wellFormed.categories _ among).name
  | module among => exact (wellFormed.categories _ among).module
  | record among member => exact ((wellFormed.categories _ among).nodes _ member).name
  | tag among member => exact ((wellFormed.categories _ among).nodes _ member).tag
  | field among member inside =>
    exact ((wellFormed.categories _ among).nodes _ member).fields _ inside

end TreeSchema
