import TreeSchema.Graph.Cycle
import TreeSchema.Schema.Index
import TreeSchema.Schema.Naming
import TreeSchema.Template

/-!
The check of a schema. It reads the names first, then the references and the rendering programs,
and last the records that embed each other; the first defect met is reported.
-/

namespace TreeSchema

/-- Fails with a defect unless the condition holds. -/
def require (condition : Bool) (defect : Defect) : Except Defect Unit :=
  if condition then .ok () else .error defect

/-! ### Names -/

/-- The names that the categories read so far have taken. -/
structure Names where
  modules : List String
  index : Index

def Index.checkInsert (index : Index) (name : String) (target : Target) : Except Defect Index :=
  match index.insert? name target with
  | some index => .ok index
  | none => .error (.duplicateName name)

/-- Reads the names of fields, `seen` being those of the fields before. -/
def checkFieldNames (node : String) (seen : List String) : List Field → Except Defect Unit
  | [] => .ok ()
  | field :: rest => do
    NameStyle.snake.check [arenaParameter] field.name
    require (field.name ∉ seen) (.duplicateField node field.name)
    checkFieldNames node (field.name :: seen) rest

/-- Reads the names of nodes from position `n` on, `tags` being the tags before. -/
def checkNodeNames (reserved : List String) (category : String) (c : Nat) :
    Nat → List String → Index → List Node → Except Defect Index
  | _, _, index, [] => .ok index
  | n, tags, index, node :: rest => do
    NameStyle.pascal.check reserved node.name
    NameStyle.pascal.check [] node.tag
    require (node.tag ∉ tags) (.duplicateTag category node.tag)
    let index ← index.checkInsert node.name (.record c n)
    checkFieldNames node.name [] node.fields
    checkNodeNames reserved category c (n + 1) (node.tag :: tags) index rest

/-- Reads the names of categories from position `c` on. -/
def checkNames (reserved : List String) : Nat → Names → List Category → Except Defect Index
  | _, names, [] => .ok names.index
  | c, names, category :: rest => do
    NameStyle.pascal.check reserved category.name
    NameStyle.snake.check [] category.moduleName
    require (category.moduleName ∉ names.modules) (.duplicateModule category.moduleName)
    require (!category.nodes.isEmpty) (.emptyCategory category.name)
    let index ← names.index.checkInsert category.name (.union c)
    let index ← checkNodeNames reserved category.name c 0 [] index category.nodes
    checkNames reserved (c + 1) ⟨category.moduleName :: names.modules, index⟩ rest

/-! ### References -/

/-- Whether a target is a record that the arena's lifetime does not reach. -/
def Schema.isPlain (schema : Schema) : Target → Bool
  | .union _ => false
  | .record c n => (schema.node? c n).any (!·.needsLifetime)

/-- Refuses targets that are unknown, declared later than category `c`, or plain. -/
def checkReference (schema : Schema) (index : Index) (c : Nat) (node : String) (field : Field) :
    Except Defect Unit :=
  match field.type.target? with
  | none => .ok ()
  | some name =>
    match index.resolve name with
    | none => .error (.unknownTarget node field.name name)
    | some target => do
      require (target.category ≤ c) (.forwardReference node field.name name
        ((schema.categories[target.category]?).elim "" (·.name)))
      require (!schema.isPlain target) (.plainRecordTarget node field.name name)

/-! ### Rendering programs -/

def Node.fieldType (node : Node) (name : String) : Except Defect FieldType :=
  match node.field? name with
  | some field => .ok field.type
  | none => .error (.unknownField node.name name)

/-- Whether a value of the type can be shown as it is. -/
def FieldType.isDisplayable : FieldType → Bool
  | .token | .primitive _ | .node _ => true
  | .optionalToken | .optionalNode _ | .sequence _ => false

def FieldType.isSequence : FieldType → Bool
  | .sequence _ => true
  | _ => false

def FieldType.isOptional : FieldType → Bool
  | .optionalToken | .optionalNode _ => true
  | _ => false

def checkDisplayable (node : Node) (name : String) : Except Defect Unit := do
  let type ← node.fieldType name
  require type.isDisplayable (.notTemplatable node.name name)

def checkTemplate (node : Node) (format : String) (args : List String) : Except Defect Unit :=
  match Template.parse format with
  | .error fault => .error (.invalidTemplate node.name fault.message)
  | .ok segments => do
    let placeholders := Template.placeholders segments
    require (placeholders = args.length) (.templateArity node.name placeholders args.length)
    args.forM (checkDisplayable node)

mutual

/-- Checks one step, `bound` telling whether an item is bound around it. -/
def checkOp (node : Node) (bound : Bool) : RenderOp → Except Defect Unit
  | .literal _ => .ok ()
  | .field name => checkDisplayable node name
  | .item => require bound (.unboundItem node.name)
  | .forEach field body _ => do
    let type ← node.fieldType field
    require type.isSequence (.notSequence node.name field)
    checkOps node true body
  | .ifPresent field body => do
    let type ← node.fieldType field
    require type.isOptional (.notOptional node.name field)
    checkOps node true body

def checkOps (node : Node) (bound : Bool) : List RenderOp → Except Defect Unit
  | [] => .ok ()
  | op :: rest => do
    checkOp node bound op
    checkOps node bound rest

end

def checkRender (node : Node) : Except Defect Unit :=
  match node.render with
  | .template format args => checkTemplate node format args
  | .custom ops => checkOps node false ops

def checkNode (schema : Schema) (index : Index) (c : Nat) (node : Node) : Except Defect Unit := do
  node.fields.forM (checkReference schema index c node.name)
  checkRender node

def checkNodes (schema : Schema) (index : Index) : Nat → List Category → Except Defect Unit
  | _, [] => .ok ()
  | c, category :: rest => do
    category.nodes.forM (checkNode schema index c)
    checkNodes schema index (c + 1) rest

/-! ### Records that embed each other -/

namespace Schema

/-- The positions of all records in schema order. -/
def records (schema : Schema) : List (Nat × Nat) :=
  schema.categories.zipIdx.flatMap fun (category, c) =>
    (List.range category.nodes.length).map (c, ·)

/-- The records that a record holds by value, in field order. Unions and sequences are references
into the arena. -/
def embedded (schema : Schema) (index : Index) (position : Nat × Nat) : List (Nat × Nat) :=
  match schema.node? position.1 position.2 with
  | none => []
  | some node => node.fields.filterMap fun field =>
    match field.type.embeds?.bind index.resolve with
    | some (.record c n) => some (c, n)
    | _ => none

def nodeName (schema : Schema) (position : Nat × Nat) : String :=
  (schema.node? position.1 position.2).elim "" (·.name)

/-- Refuses records that hold themselves by value, as they would have no size. -/
def checkEmbedding (schema : Schema) (index : Index) : Except Defect Unit :=
  match Graph.cycle? schema.records (schema.embedded index) schema.nodeName with
  | none => .ok ()
  | some (node, path) => .error (.recordCycle node path)

/-- Checks the schema and indexes its names. -/
def check (schema : Schema) : Except Defect Index := do
  let reserved := schema.collaborators.reservedNames
  let index ← checkNames reserved 0 ⟨[], .empty⟩ schema.categories
  checkNodes schema index 0 schema.categories
  schema.checkEmbedding index
  return index

end Schema

end TreeSchema
