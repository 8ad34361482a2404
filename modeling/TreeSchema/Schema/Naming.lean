import TreeSchema.Schema.Basic
import TreeSchema.Schema.Defect

/-!
The rules for names. A name is well written if converting it to its style changes nothing, and some
names are taken.
-/

namespace TreeSchema

/-- Words that the generated code cannot use as names. -/
def keywords : List String :=
  ["abstract", "as", "async", "await", "become", "box", "break", "const", "continue", "crate",
    "do", "dyn", "else", "enum", "extern", "false", "final", "fn", "for", "gen", "if", "impl",
    "in", "let", "loop", "macro", "match", "mod", "move", "mut", "override", "priv", "pub", "ref",
    "return", "self", "Self", "static", "struct", "super", "trait", "true", "try", "type",
    "typeof", "unsafe", "unsized", "use", "virtual", "where", "while", "yield"]

/-- Types that the generated code names without importing them. -/
def preludeTypes : List String := ["Option"]

/-- The parameter of generated constructors that fields may not be called. -/
def arenaParameter : String := "arena"

namespace NameStyle

/-- Whether the name is written in this style and starts with a letter of its case. -/
def accepts (style : NameStyle) (name : String) : Bool :=
  match style with
  | .pascal => name.toList.head?.any Char.isUpper && Text.pascalCase name == name
  | .snake => name.toList.head?.any Char.isLower && Text.snakeCase name == name

/-- Refuses names in another style, keywords, and the names of `taken`. -/
def check (style : NameStyle) (taken : List String) (name : String) : Except Defect Unit :=
  if !style.accepts name then .error (.invalidName name style)
  else if name ∈ keywords ∨ name ∈ taken then .error (.reservedName name)
  else .ok ()

end NameStyle

/-- The text after the last pair of colons. -/
def afterColons? : List Char → Option (List Char)
  | [] => none
  | c :: rest =>
    if c = ':' ∧ rest.head? = some ':' then some ((afterColons? rest).getD rest.tail)
    else afterColons? rest

/-- The last segment of a path, the name that importing it brings into scope. -/
def simpleName (path : String) : String :=
  match afterColons? path.toList with
  | some name => String.ofList name
  | none => path

/-- Names that no category or record may have: the types that units import and the types they use
without an import. -/
def Collaborators.reservedNames (collaborators : Collaborators) : List String :=
  [collaborators.token, collaborators.atom, collaborators.arena, collaborators.sequence].map
    simpleName ++ preludeTypes

end TreeSchema
