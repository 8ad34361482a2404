import TreeSchema.Schema.Check
import TreeSchema.Source.Layout

/-!
The units of a schema, one per category. A unit imports what its fields refer to and nothing else.
-/

namespace TreeSchema

open Source

/-- The type of a field as written in a unit. -/
def FieldType.typeExpr (collaborators : Collaborators) : FieldType → TypeExpr
  | token => .plain (simpleName collaborators.token)
  | optionalToken => .optional (.plain (simpleName collaborators.token))
  | primitive .f64 => .plain "f64"
  | primitive .i64 => .plain "i64"
  | primitive .bool => .plain "bool"
  | primitive .atom => .plain (simpleName collaborators.atom)
  | node target => .arena target
  | optionalNode target => .optional (.arena target)
  | sequence target => .sequence (simpleName collaborators.sequence) (.arena target)

/-! ### Imports -/

def FieldType.needsToken : FieldType → Bool
  | token | optionalToken => true
  | _ => false

def FieldType.needsAtom : FieldType → Bool
  | primitive .atom => true
  | _ => false

/-- Inserts a name into a sorted list, unless it is there. -/
def insertName (name : String) : List String → List String
  | [] => [name]
  | other :: rest =>
    if name = other then other :: rest
    else if name < other then name :: other :: rest
    else other :: insertName name rest

/-- The names of category `c` that the types refer to, sorted and without repetition. -/
def namesFrom (index : Index) (c : Nat) (types : List FieldType) : List String :=
  types.foldl (fun names type =>
    match type.target? with
    | none => names
    | some name =>
      if (index.resolve name).map (·.category) = some c then insertName name names else names) []

/-- The imports of names that other categories declare, one line per category. -/
def siblingImports (schema : Schema) (index : Index) (c : Nat) (types : List FieldType) :
    List Import :=
  schema.categories.zipIdx.filterMap fun (sibling, d) =>
    if d = c then none
    else
      match namesFrom index d types with
      | [] => none
      | names => some (.sibling schema.collaborators.siblingPrefix sibling.moduleName names)

/-- The imports of category number `c`. -/
def imports (schema : Schema) (index : Index) (c : Nat) (types : List FieldType) : List Import :=
  let collaborators := schema.collaborators
  [.path collaborators.arena] ++
  (if types.any (·.needsToken) then [.path collaborators.token] else []) ++
  (if types.any (·.needsAtom) then [.path collaborators.atom] else []) ++
  (if types.any (·.isSequence) then [.path collaborators.sequence] else []) ++
  siblingImports schema index c types

/-! ### Renderers -/

/-- What an item is bound to, which decides how it is written. -/
inductive ItemKind where
  | token
  | node
  deriving DecidableEq, Repr

/-- The argument that shows a field. -/
def operand? (node : Node) (name : String) : Option Operand := do
  let field ← node.field? name
  match field.type with
  | .token => return .lexeme name
  | _ => return .value name

/-- The body of a template. Without arguments its text is written as it is. -/
def templateBody? (node : Node) (format : String) (args : List String) : Option Body :=
  match Template.parse format with
  | .error _ => none
  | .ok segments =>
    if args.isEmpty then some (.text (Template.text segments))
    else (args.mapM (operand? node)).map (.format format)

/-- Whether the program shows the item bound around it. Inner steps bind their own. -/
def bindsItem (ops : List RenderOp) : Bool :=
  ops.any fun op => op matches .item

/-- What an optional field binds. -/
def boundBy? (node : Node) (name : String) : Option ItemKind := do
  let field ← node.field? name
  match field.type with
  | .optionalToken => some .token
  | .optionalNode _ => some .node
  | _ => none

mutual

/-- The statements of one step, `item` being what is bound around it. -/
def opStatements? (node : Node) (item : Option ItemKind) : RenderOp → Option (List Statement)
  | .literal text => some (if text.isEmpty then [] else [.writeText text])
  | .field name => do
    let field ← node.field? name
    match field.type with
    | .token => return [.writeLexeme (.field name)]
    | _ => return [.display (.field name)]
  | .item =>
    match item with
    | none => none
    | some .token => some [.writeLexeme .item]
    | some .node => some [.display .item]
  | .forEach field body separator => do
    let statements ← statements? node (some .node) body
    let separated := if separator.isEmpty then [] else [.writeText separator]
    return [.forEach (bindsItem body) field (statements ++ separated)]
  | .ifPresent field body => do
    let bound ← boundBy? node field
    let statements ← statements? node (some bound) body
    return [.ifPresent (bindsItem body) field statements]

def statements? (node : Node) (item : Option ItemKind) :
    List RenderOp → Option (List Statement)
  | [] => some []
  | op :: rest => do
    let first ← opStatements? node item op
    let others ← statements? node item rest
    return first ++ others

end

/-- The body of a node's renderer. It exists for every node that passes the check. -/
def Node.body? (node : Node) : Option Body :=
  match node.render with
  | .template format args => templateBody? node format args
  | .custom ops => do
    let statements ← statements? node none ops
    return .block (if ops.isEmpty then .touch :: statements else statements)

/-! ### Units -/

def Node.record? (collaborators : Collaborators) (node : Node) : Option Record := do
  let body ← node.body?
  return {
    name := node.name
    tag := node.tag
    lifetime := node.needsLifetime
    fields := node.fields.map fun field => (field.name, field.type.typeExpr collaborators)
    body }

/-- The file of category number `c`. -/
def Category.file? (schema : Schema) (index : Index) (category : Category) (c : Nat) :
    Option File := do
  let records ← category.nodes.mapM (·.record? schema.collaborators)
  return {
    union := category.name
    module := category.moduleName
    arena := simpleName schema.collaborators.arena
    lexeme := schema.collaborators.lexeme
    imports := imports schema index c category.fieldTypes
    records }

/-- A generated unit: the category it is for, its module, and its text. -/
structure SourceUnit where
  category : String
  module : String
  source : String
  deriving DecidableEq, Repr

def SourceUnit.fileName (unit : SourceUnit) : String :=
  unit.module ++ ".rs"

def Source.File.unit (file : File) : SourceUnit :=
  ⟨file.union, file.module, file.text⟩

/-- Why nothing was generated. The second case does not arise. -/
inductive GenerateFault where
  | defect (defect : Defect)
  | emission
  deriving DecidableEq, Repr

/-- The files of a schema that passes the check, in the order of its categories. -/
def Schema.files (schema : Schema) : Except GenerateFault (List File) :=
  match schema.check with
  | .error defect => .error (.defect defect)
  | .ok index =>
    match schema.categories.zipIdx.mapM fun (category, c) => category.file? schema index c with
    | none => .error .emission
    | some files => .ok files

/-- Generates the units of a schema. -/
def Schema.generate (schema : Schema) : Except GenerateFault (List SourceUnit) :=
  schema.files.map fun files => files.map (·.unit)

end TreeSchema
