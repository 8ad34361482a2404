import TreeSchema.Ast.Debug
import TreeSchema.Ast.Interner

/-!
Tokens as the trees hold them.
-/

namespace TreeSchema.Ast

inductive TokenKind where
  | plus
  | minus
  | star
  | slash
  | doubleStar
  | doubleSlash
  | identifier
  | number
  | string
  | true
  | false
  | nil
  | parenOpen
  | parenClose
  | let
  | bangEqual
  | equal
  | semicolonEqual
  | less
  | lessEqual
  | greater
  | greaterEqual
  | block
  | if
  | then
  | elseIf
  | else
  | while
  | do
  | end
  | and
  | or
  | not
  | print
  | eof
  deriving DecidableEq, Repr

namespace TokenKind

def name : TokenKind → String
  | plus => "Plus"
  | minus => "Minus"
  | star => "Star"
  | slash => "Slash"
  | doubleStar => "DoubleStar"
  | doubleSlash => "DoubleSlash"
  | identifier => "Identifier"
  | number => "Number"
  | string => "String"
  | .true => "True"
  | .false => "False"
  | nil => "Nil"
  | parenOpen => "ParenOpen"
  | parenClose => "ParenClose"
  | .let => "Let"
  | bangEqual => "BangEqual"
  | equal => "Equal"
  | semicolonEqual => "SemicolonEqual"
  | less => "Less"
  | lessEqual => "LessEqual"
  | greater => "Greater"
  | greaterEqual => "GreaterEqual"
  | block => "Block"
  | .if => "If"
  | .then => "Then"
  | elseIf => "ElseIf"
  | .else => "Else"
  | .while => "While"
  | .do => "Do"
  | .end => "End"
  | and => "And"
  | or => "Or"
  | not => "Not"
  | print => "Print"
  | eof => "Eof"

def all : List TokenKind :=
  [plus, minus, star, slash, doubleStar, doubleSlash, identifier, number, string, .true, .false,
    nil, parenOpen, parenClose, .let, bangEqual, equal, semicolonEqual, less, lessEqual, greater,
    greaterEqual, block, .if, .then, elseIf, .else, .while, .do, .end, and, or, not, print, eof]

def ofName? (name : String) : Option TokenKind :=
  all.find? (·.name = name)

end TokenKind

/-- A token, its position among the tokens and its source text. -/
structure Token where
  kind : TokenKind
  index : Nat
  atom : Atom
  deriving Repr

namespace Token

def lexeme (token : Token) : String := token.atom.text

/-- Tokens are equal if their kinds, positions and texts are. -/
instance : BEq Token :=
  ⟨fun a b => a.kind == b.kind && a.index == b.index && a.atom == b.atom⟩

def display (token : Token) : String :=
  token.kind.name ++ "(" ++ Text.quoted token.lexeme ++ ")"

def shape (token : Token) : Shape :=
  .record "Token" [("kind", .text token.kind.name), ("index", .text (toString token.index)),
    ("lexeme", .text token.atom.debug)]

end Token

/-- Gives out tokens and atoms, counting the tokens. -/
structure Builder where
  interner : Interner
  tokens : Nat

namespace Builder

def empty : Builder := ⟨.empty, 0⟩

def atom (builder : Builder) (text : String) : Builder × Atom :=
  let (interner, atom) := builder.interner.intern text
  ({ builder with interner }, atom)

/-- The next token. Positions count from one. -/
def token (builder : Builder) (kind : TokenKind) (lexeme : String) : Builder × Token :=
  let (builder, atom) := builder.atom lexeme
  ({ builder with tokens := builder.tokens + 1 }, ⟨kind, builder.tokens + 1, atom⟩)

end Builder

end TreeSchema.Ast
