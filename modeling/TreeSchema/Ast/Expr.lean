import TreeSchema.Ast.Record
import TreeSchema.Ast.Sink

/-!
Expressions. They render in the style of s-expressions; parentheses, kinds and values of tokens are
kept in the tree and not shown.
-/

namespace TreeSchema.Ast

structure NumberExpr where
  token : Token
  number : Float

structure StringExpr where
  token : Token
  string : Atom

structure VarExpr where
  identifier : Token

structure BoolExpr where
  token : Token
  value : Bool

mutual

inductive Expr where
  | number (record : NumberExpr)
  | string (record : StringExpr)
  | var (record : VarExpr)
  | bool (record : BoolExpr)
  | group (record : GroupExpr)
  | unary (record : PrefixExpr)
  | binary (record : InfixExpr)

inductive GroupExpr where
  | record (parenOpen : Token) (inner : Expr) (parenClose : Token)

inductive PrefixExpr where
  | record (operator : Token) (inner : Expr)

inductive InfixExpr where
  | record (left : Expr) (operator : Token) (right : Expr)

end

/-! ### Constructors -/

def NumberExpr.intoExpr (record : NumberExpr) : Expr := .number record
def StringExpr.intoExpr (record : StringExpr) : Expr := .string record
def VarExpr.intoExpr (record : VarExpr) : Expr := .var record
def BoolExpr.intoExpr (record : BoolExpr) : Expr := .bool record
def GroupExpr.intoExpr (record : GroupExpr) : Expr := .group record
def PrefixExpr.intoExpr (record : PrefixExpr) : Expr := .unary record
def InfixExpr.intoExpr (record : InfixExpr) : Expr := .binary record

def NumberExpr.new (token : Token) (number : Float) : Expr := .number ⟨token, number⟩
def StringExpr.new (token : Token) (string : Atom) : Expr := .string ⟨token, string⟩
def VarExpr.new (identifier : Token) : Expr := .var ⟨identifier⟩
def BoolExpr.new (token : Token) (value : Bool) : Expr := .bool ⟨token, value⟩

def GroupExpr.new (parenOpen : Token) (inner : Expr) (parenClose : Token) : Expr :=
  .group (.record parenOpen inner parenClose)

def PrefixExpr.new (operator : Token) (inner : Expr) : Expr :=
  .unary (.record operator inner)

def InfixExpr.new (left : Expr) (operator : Token) (right : Expr) : Expr :=
  .binary (.record left operator right)

/-! ### Rendering -/

section

variable {m : Type → Type} [Monad m] (write : String → m Unit)

mutual

def Expr.render : Expr → m Unit
  | .number record => write record.token.lexeme
  | .string record => write record.token.lexeme
  | .var record => write record.identifier.lexeme
  | .bool record => write record.token.lexeme
  | .group record => record.render
  | .unary record => record.render
  | .binary record => record.render

def GroupExpr.render : GroupExpr → m Unit
  | .record _ inner _ => do
    write "("
    inner.render
    write ")"

def PrefixExpr.render : PrefixExpr → m Unit
  | .record operator inner => do
    write "("
    write operator.lexeme
    write " "
    inner.render
    write ")"

def InfixExpr.render : InfixExpr → m Unit
  | .record left operator right => do
    write "("
    write operator.lexeme
    write " "
    left.render
    write " "
    right.render
    write ")"

end

end

instance : Rendered Expr := ⟨fun write expr => expr.render write⟩

/-! ### The view as a record -/

mutual

def Expr.toRecord : Expr → Record
  | .number ⟨token, number⟩ =>
    .mk "Number" "NumberExpr" [("token", .token token), ("number", .float number)]
  | .string ⟨token, string⟩ =>
    .mk "String" "StringExpr" [("token", .token token), ("string", .atom string)]
  | .var ⟨identifier⟩ => .mk "Var" "VarExpr" [("identifier", .token identifier)]
  | .bool ⟨token, value⟩ =>
    .mk "Bool" "BoolExpr" [("token", .token token), ("value", .boolean value)]
  | .group record => record.toRecord "Group"
  | .unary record => record.toRecord "Prefix"
  | .binary record => record.toRecord "Infix"

def GroupExpr.toRecord (tag : Option String) : GroupExpr → Record
  | .record parenOpen inner parenClose =>
    .mk tag "GroupExpr" [("paren_open", .token parenOpen), ("inner", .node inner.toRecord),
      ("paren_close", .token parenClose)]

def PrefixExpr.toRecord (tag : Option String) : PrefixExpr → Record
  | .record operator inner =>
    .mk tag "PrefixExpr" [("operator", .token operator), ("inner", .node inner.toRecord)]

def InfixExpr.toRecord (tag : Option String) : InfixExpr → Record
  | .record left operator right =>
    .mk tag "InfixExpr" [("left", .node left.toRecord), ("operator", .token operator),
      ("right", .node right.toRecord)]

end

end TreeSchema.Ast
