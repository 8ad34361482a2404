import TreeSchema.Schema.Basic

/-!
The schemas that the trees are declared by: one of expressions and statements, one of calculations.
-/

namespace TreeSchema.Ast

/-! ### Expressions -/

def NumberExpr.node : Node where
  name := "NumberExpr"
  tag := "Number"
  fields := [⟨"token", .token⟩, ⟨"number", .primitive .f64⟩]
  render := .template "{}" ["token"]

def StringExpr.node : Node where
  name := "StringExpr"
  tag := "String"
  fields := [⟨"token", .token⟩, ⟨"string", .primitive .atom⟩]
  render := .template "{}" ["token"]

def VarExpr.node : Node where
  name := "VarExpr"
  tag := "Var"
  fields := [⟨"identifier", .token⟩]
  render := .template "{}" ["identifier"]

def BoolExpr.node : Node where
  name := "BoolExpr"
  tag := "Bool"
  fields := [⟨"token", .token⟩, ⟨"value", .primitive .bool⟩]
  render := .template "{}" ["token"]

def GroupExpr.node : Node where
  name := "GroupExpr"
  tag := "Group"
  fields := [⟨"paren_open", .token⟩, ⟨"inner", .node "Expr"⟩, ⟨"paren_close", .token⟩]
  render := .template "({})" ["inner"]

def PrefixExpr.node : Node where
  name := "PrefixExpr"
  tag := "Prefix"
  fields := [⟨"operator", .token⟩, ⟨"inner", .node "Expr"⟩]
  render := .template "({} {})" ["operator", "inner"]

def InfixExpr.node : Node where
  name := "InfixExpr"
  tag := "Infix"
  fields := [⟨"left", .node "Expr"⟩, ⟨"operator", .token⟩, ⟨"right", .node "Expr"⟩]
  render := .template "({} {} {})" ["operator", "left", "right"]

def exprCategory : Category where
  name := "Expr"
  module := none
  nodes := [NumberExpr.node, StringExpr.node, VarExpr.node, BoolExpr.node, GroupExpr.node,
    PrefixExpr.node, InfixExpr.node]

/-! ### Statements -/

def PrintStmt.node : Node where
  name := "PrintStmt"
  tag := "Print"
  fields := [⟨"print_token", .token⟩, ⟨"inner", .node "Expr"⟩]
  render := .template "(print {})" ["inner"]

def VarDeclStmt.node : Node where
  name := "VarDeclStmt"
  tag := "VarDecl"
  fields := [⟨"var_token", .token⟩, ⟨"identifier", .token⟩, ⟨"init_expr", .node "Expr"⟩]
  render := .template "({} {} {})" ["var_token", "identifier", "init_expr"]

def BlockStmt.node : Node where
  name := "BlockStmt"
  tag := "Block"
  fields := [⟨"open_token", .token⟩, ⟨"statements", .node "StmtList"⟩, ⟨"close_token", .token⟩]
  render := .template "(block {})" ["statements"]

def StmtList.node : Node where
  name := "StmtList"
  tag := "StmtList"
  fields := [⟨"stmts", .sequence "Stmt"⟩]
  render := .custom [.forEach "stmts" [.item] "\n"]

def ProgramStmt.node : Node where
  name := "ProgramStmt"
  tag := "Program"
  fields := [⟨"statements", .node "StmtList"⟩, ⟨"eof_token", .token⟩]
  render := .template "(program {})" ["statements"]

def IfStmt.node : Node where
  name := "IfStmt"
  tag := "If"
  fields := [⟨"if_token", .token⟩, ⟨"condition", .node "Expr"⟩,
    ⟨"then_clause", .node "BlockStmt"⟩, ⟨"else_token", .optionalToken⟩,
    ⟨"else_clause", .optionalNode "BlockStmt"⟩, ⟨"end_token", .token⟩]
  render := .custom [.literal "(if ", .field "condition", .literal " then ",
    .field "then_clause", .ifPresent "else_clause" [.literal " else ", .item], .literal ")"]

def WhileStmt.node : Node where
  name := "WhileStmt"
  tag := "While"
  fields := [⟨"while_token", .token⟩, ⟨"condition", .node "Expr"⟩, ⟨"block", .node "BlockStmt"⟩,
    ⟨"end_token", .token⟩]
  render := .template "(while {} {})" ["condition", "block"]

def ExprStmt.node : Node where
  name := "ExprStmt"
  tag := "ExprStmt"
  fields := [⟨"expr", .node "Expr"⟩]
  render := .template "{}" ["expr"]

def stmtCategory : Category where
  name := "Stmt"
  module := none
  nodes := [PrintStmt.node, VarDeclStmt.node, BlockStmt.node, StmtList.node, ProgramStmt.node,
    IfStmt.node, WhileStmt.node, ExprStmt.node]

def programSchema : Schema where
  collaborators := {}
  categories := [exprCategory, stmtCategory]

/-! ### Calculations -/

def NumCalc.node : Node where
  name := "NumCalc"
  tag := "Num"
  fields := [⟨"token", .token⟩, ⟨"value", .primitive .f64⟩]
  render := .template "{}" ["value"]

def NameCalc.node : Node where
  name := "NameCalc"
  tag := "Name"
  fields := [⟨"identifier", .token⟩, ⟨"name", .primitive .atom⟩]
  render := .template "{}" ["name"]

def InfixCalc.node : Node where
  name := "InfixCalc"
  tag := "Infix"
  fields := [⟨"left", .node "Calc"⟩, ⟨"operator", .token⟩, ⟨"right", .node "Calc"⟩]
  render := .template "({} {} {})" ["left", "operator", "right"]

/-- The fields of an infix node, with the operator shown first. -/
def PolishCalc.node : Node where
  name := "PolishCalc"
  tag := "Polish"
  fields := [⟨"left", .node "Calc"⟩, ⟨"operator", .token⟩, ⟨"right", .node "Calc"⟩]
  render := .template "({} {} {})" ["operator", "left", "right"]

def ListCalc.node : Node where
  name := "ListCalc"
  tag := "List"
  fields := [⟨"items", .sequence "Calc"⟩]
  render := .custom [.literal "(list ", .forEach "items" [.item] ";", .literal ")"]

def ReturnCalc.node : Node where
  name := "ReturnCalc"
  tag := "Return"
  fields := [⟨"keyword", .token⟩, ⟨"value", .optionalNode "Calc"⟩]
  render := .custom [.literal "(return", .ifPresent "value" [.literal " ", .item], .literal ")"]

def LabelCalc.node : Node where
  name := "LabelCalc"
  tag := "Label"
  fields := [⟨"inner", .node "Calc"⟩, ⟨"label", .optionalToken⟩]
  render := .custom [.field "inner", .ifPresent "label" [.literal " @", .item]]

def UnitCalc.node : Node where
  name := "UnitCalc"
  tag := "Unit"
  fields := []
  render := .custom []

def calcCategory : Category where
  name := "Calc"
  module := none
  nodes := [NumCalc.node, NameCalc.node, InfixCalc.node, PolishCalc.node, ListCalc.node,
    ReturnCalc.node, LabelCalc.node, UnitCalc.node]

def calcSchema : Schema where
  collaborators :=
    { token := "cahn::token::Token"
      atom := "cahn::intern::StringAtom" }
  categories := [calcCategory]

end TreeSchema.Ast
