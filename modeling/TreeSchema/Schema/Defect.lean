/-!
What can be wrong with a schema.
-/

namespace TreeSchema

/-- The two ways of writing names. -/
inductive NameStyle where
  | pascal
  | snake
  deriving DecidableEq, Repr

def NameStyle.text : NameStyle → String
  | .pascal => "PascalCase"
  | .snake => "snake_case"

/-- A defect names the part of the schema that has it. -/
inductive Defect where
  | emptyCategory (category : String)
  | duplicateModule (module : String)
  | duplicateName (name : String)
  | duplicateTag (category tag : String)
  | duplicateField (node field : String)
  | invalidName (name : String) (expected : NameStyle)
  | reservedName (name : String)
  | unknownTarget (node field target : String)
  | forwardReference (node field target category : String)
  | plainRecordTarget (node field target : String)
  | recordCycle (node : String) (path : List String)
  | unknownField (node field : String)
  | invalidTemplate (node message : String)
  | templateArity (node : String) (placeholders args : Nat)
  | notTemplatable (node field : String)
  | notSequence (node field : String)
  | notOptional (node field : String)
  | unboundItem (node : String)
  deriving DecidableEq, Repr

namespace Defect

def message : Defect → String
  | emptyCategory category => s!"category `{category}` has no nodes"
  | duplicateModule module => s!"duplicate module `{module}`"
  | duplicateName name => s!"duplicate type name `{name}`"
  | duplicateTag category tag => s!"duplicate tag `{tag}` in category `{category}`"
  | duplicateField node field => s!"duplicate field `{field}` in `{node}`"
  | invalidName name expected => s!"`{name}` is not a valid {expected.text} identifier"
  | reservedName name => s!"`{name}` is reserved"
  | unknownTarget node field target =>
    s!"field `{node}.{field}` refers to unknown type `{target}`"
  | forwardReference node field target category =>
    s!"field `{node}.{field}` refers to `{target}` from category `{category}`, " ++
      "which is declared later"
  | plainRecordTarget node field target =>
    s!"field `{node}.{field}` embeds `{target}`, " ++
      "which has no node fields and cannot be embedded"
  | recordCycle node path =>
    s!"`{node}` contains itself by value through `" ++ " -> ".intercalate path ++ "`"
  | unknownField node field => s!"`{node}` renders unknown field `{field}`"
  | invalidTemplate node message => s!"invalid template for `{node}`: {message}"
  | templateArity node placeholders args =>
    s!"template for `{node}` has {placeholders} placeholders but {args} arguments"
  | notTemplatable node field =>
    s!"field `{node}.{field}` cannot be rendered directly, use a custom renderer"
  | notSequence node field => s!"`for_each` over `{node}.{field}`, which is not a sequence"
  | notOptional node field => s!"`if_present` over `{node}.{field}`, which is not optional"
  | unboundItem node => s!"`item` used outside of `for_each` or `if_present` in `{node}`"

end Defect

end TreeSchema
