import TreeSchema.Schema.Naming
import TreeSchema.Source.Basic
import TreeSchema.Text.Quoted

/-!
The text of a generated unit, as a list of lines. Lines are indented by four spaces a level and each
ends with a line break.
-/

namespace TreeSchema.Source

def commaSeparated (items : List String) : String :=
  ", ".intercalate items

/-- A line at a level of indentation. -/
def indented (depth : Nat) (line : String) : String :=
  String.join (List.replicate depth "    ") ++ line

def TypeExpr.text : TypeExpr → String
  | plain name => name
  | arena name => name ++ "<'a>"
  | optional inner => "Option<" ++ inner.text ++ ">"
  | sequence container element => container ++ "<'a, " ++ element.text ++ ">"

def Import.line : Import → String
  | path target => "use " ++ target ++ ";"
  | sibling scope module [name] => "use " ++ scope ++ "::" ++ module ++ "::" ++ name ++ ";"
  | sibling scope module names =>
    "use " ++ scope ++ "::" ++ module ++ "::\x7b" ++ commaSeparated names ++ "\x7d;"

def lifetimeText (lifetime : Bool) : String :=
  if lifetime then "<'a>" else ""

/-! ### Renderers -/

def Place.text : Place → String
  | field name => "self." ++ name
  | item => "item"

/-- The place as an argument of a call that takes a reference. -/
def Place.reference : Place → String
  | field name => "&self." ++ name
  | item => "item"

def Operand.text (lexeme : String) : Operand → String
  | value name => "self." ++ name
  | .lexeme name => "self." ++ name ++ "." ++ lexeme ++ "()"

mutual

def Statement.lines (lexeme : String) (depth : Nat) : Statement → List String
  | .touch => [indented depth "let _ = f;"]
  | .writeText text => [indented depth ("f.write_str(" ++ Text.quoted text ++ ")?;")]
  | .writeLexeme place =>
    [indented depth ("f.write_str(" ++ place.text ++ "." ++ lexeme ++ "())?;")]
  | .display place => [indented depth ("fmt::Display::fmt(" ++ place.reference ++ ", f)?;")]
  | .forEach binds field body =>
    indented depth ("for " ++ (if binds then "item" else "_") ++ " in self." ++ field ++
        ".iter() \x7b") ::
      statementLines lexeme (depth + 1) body ++ [indented depth "\x7d"]
  | .ifPresent binds field body =>
    indented depth (if binds then "if let Some(item) = &self." ++ field ++ " \x7b"
        else "if self." ++ field ++ ".is_some() \x7b") ::
      statementLines lexeme (depth + 1) body ++ [indented depth "\x7d"]

def statementLines (lexeme : String) (depth : Nat) : List Statement → List String
  | [] => []
  | statement :: rest => statement.lines lexeme depth ++ statementLines lexeme depth rest

end

def Body.lines (lexeme : String) : Body → List String
  | text shown => [indented 2 ("f.write_str(" ++ Text.quoted shown ++ ")")]
  | format template operands =>
    [indented 2 ("write!(f, " ++ Text.quoted template ++ ", " ++
      commaSeparated (operands.map (·.text lexeme)) ++ ")")]
  | block statements => statementLines lexeme 2 statements ++ [indented 2 "Ok(())"]

namespace Record

def fieldTexts (record : Record) : List String :=
  record.fields.map fun (name, type) => name ++ ": " ++ type.text

/-- The record's definition. -/
def definition (record : Record) : List String :=
  ["#[derive(Debug, Clone)]",
    "pub struct " ++ record.name ++ lifetimeText record.lifetime ++ " \x7b"] ++
  record.fieldTexts.map (fun field => indented 1 ("pub " ++ field ++ ",")) ++
  ["\x7d", ""]

/-- The constructors: one that allocates the record and wraps it in the union, one that builds the
bare record, and one that wraps a record later. Where the record has no lifetime the functions that
need one are generic in it. -/
def constructors (file : File) (record : Record) : List String :=
  let implGenerics := lifetimeText record.lifetime
  let fnGenerics := lifetimeText (!record.lifetime)
  let arena := arenaParameter ++ ": &'a " ++ file.arena
  let inits := commaSeparated (record.fields.map (·.1))
  let wrapped (value : String) : String :=
    file.union ++ "::" ++ record.tag ++ "(" ++ arenaParameter ++ ".alloc(" ++ value ++ "))"
  ["impl" ++ implGenerics ++ " " ++ record.name ++ implGenerics ++ " \x7b",
    indented 1 ("pub fn new" ++ fnGenerics ++ "(" ++
      commaSeparated (arena :: record.fieldTexts) ++ ") -> " ++ file.union ++ "<'a> \x7b"),
    indented 2 (wrapped (record.name ++ " \x7b " ++ inits ++ " \x7d")),
    indented 1 "\x7d",
    "",
    indented 1 ("pub fn record(" ++ commaSeparated record.fieldTexts ++ ") -> Self \x7b"),
    indented 2 ("Self \x7b " ++ inits ++ " \x7d"),
    indented 1 "\x7d",
    "",
    indented 1 ("pub fn into_" ++ file.module ++ fnGenerics ++ "(self, " ++ arena ++ ") -> " ++
      file.union ++ "<'a> \x7b"),
    indented 2 (wrapped "self"),
    indented 1 "\x7d",
    "\x7d",
    ""]

/-- The first lines of the renderer. -/
def rendererHead (record : Record) : List String :=
  ["impl fmt::Display for " ++ record.name ++ (if record.lifetime then "<'_>" else "") ++ " \x7b",
    indented 1 "fn fmt(&self, f: &mut fmt::Formatter<'_>) -> fmt::Result \x7b"]

def renderer (lexeme : String) (record : Record) : List String :=
  record.rendererHead ++ record.body.lines lexeme ++ [indented 1 "\x7d", "\x7d", ""]

end Record

namespace File

def header (file : File) : List String :=
  ["// `" ++ file.union ++ "` nodes, generated by astgen. Do not edit by hand.", ""]

def importLines (file : File) : List String :=
  ["use std::fmt;", ""] ++ file.imports.map Import.line ++ [""]

/-- The union with one variant per record. -/
def unionLines (file : File) : List String :=
  ["#[derive(Debug, Clone)]", "pub enum " ++ file.union ++ "<'a> \x7b"] ++
  file.records.map (fun record =>
    indented 1 (record.tag ++ "(&'a " ++ record.name ++ lifetimeText record.lifetime ++ "),")) ++
  ["\x7d", ""]

/-- The renderer of the union, which forwards to the record of the variant. -/
def dispatcher (file : File) : List String :=
  ["impl fmt::Display for " ++ file.union ++ "<'_> \x7b",
    indented 1 "fn fmt(&self, f: &mut fmt::Formatter<'_>) -> fmt::Result \x7b",
    indented 2 "match self \x7b"] ++
  file.records.map (fun record =>
    indented 3 (file.union ++ "::" ++ record.tag ++ "(node) => fmt::Display::fmt(node, f),")) ++
  [indented 2 "\x7d", indented 1 "\x7d", "\x7d", ""]

def lines (file : File) : List String :=
  file.header ++ file.importLines ++ file.unionLines ++ file.dispatcher ++
  file.records.flatMap fun record =>
    record.definition ++ record.constructors file ++ record.renderer file.lexeme

/-- The text of the file. -/
def text (file : File) : String :=
  String.join (file.lines.map (· ++ "\n"))

end File

end TreeSchema.Source
