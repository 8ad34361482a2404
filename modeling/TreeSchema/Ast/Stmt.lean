import TreeSchema.Ast.Expr

/-!
Statements. Blocks and statement lists stand in other statements as records, without the tag of
their variant.
-/

namespace TreeSchema.Ast

structure PrintStmt where
  printToken : Token
  inner : Expr

structure VarDeclStmt where
  varToken : Token
  identifier : Token
  initExpr : Expr

structure ExprStmt where
  expr : Expr

mutual

inductive Stmt where
  | print (record : PrintStmt)
  | varDecl (record : VarDeclStmt)
  | block (record : BlockStmt)
  | stmtList (record : StmtList)
  | program (record : ProgramStmt)
  | if (record : IfStmt)
  | while (record : WhileStmt)
  | exprStmt (record : ExprStmt)

inductive BlockStmt where
  | record (openToken : Token) (statements : StmtList) (closeToken : Token)

inductive StmtList where
  | record (stmts : List Stmt)

inductive ProgramStmt where
  | record (statements : StmtList) (eofToken : Token)

inductive IfStmt where
  | record (ifToken : Token) (condition : Expr) (thenClause : BlockStmt)
      (elseToken : Option Token) (elseClause : Option BlockStmt) (endToken : Token)

inductive WhileStmt where
  | record (whileToken : Token) (condition : Expr) (block : BlockStmt) (endToken : Token)

end

/-! ### Constructors -/

def PrintStmt.intoStmt (record : PrintStmt) : Stmt := .print record
def VarDeclStmt.intoStmt (record : VarDeclStmt) : Stmt := .varDecl record
def BlockStmt.intoStmt (record : BlockStmt) : Stmt := .block record
def StmtList.intoStmt (record : StmtList) : Stmt := .stmtList record
def ProgramStmt.intoStmt (record : ProgramStmt) : Stmt := .program record
def IfStmt.intoStmt (record : IfStmt) : Stmt := .if record
def WhileStmt.intoStmt (record : WhileStmt) : Stmt := .while record
def ExprStmt.intoStmt (record : ExprStmt) : Stmt := .exprStmt record

def PrintStmt.new (printToken : Token) (inner : Expr) : Stmt := .print ⟨printToken, inner⟩

def VarDeclStmt.new (varToken identifier : Token) (initExpr : Expr) : Stmt :=
  .varDecl ⟨varToken, identifier, initExpr⟩

def BlockStmt.new (openToken : Token) (statements : StmtList) (closeToken : Token) : Stmt :=
  .block (.record openToken statements closeToken)

def StmtList.new (stmts : List Stmt) : Stmt := .stmtList (.record stmts)

def ProgramStmt.new (statements : StmtList) (eofToken : Token) : Stmt :=
  .program (.record statements eofToken)

def IfStmt.new (ifToken : Token) (condition : Expr) (thenClause : BlockStmt)
    (elseToken : Option Token) (elseClause : Option BlockStmt) (endToken : Token) : Stmt :=
  .if (.record ifToken condition thenClause elseToken elseClause endToken)

def WhileStmt.new (whileToken : Token) (condition : Expr) (block : BlockStmt)
    (endToken : Token) : Stmt :=
  .while (.record whileToken condition block endToken)

def ExprStmt.new (expr : Expr) : Stmt := .exprStmt ⟨expr⟩

/-! ### Rendering -/

section

variable {m : Type → Type} [Monad m] (write : String → m Unit)

mutual

def Stmt.render : Stmt → m Unit
  | .print record => do
    write "(print "
    record.inner.render write
    write ")"
  | .varDecl record => do
    write "("
    write record.varToken.lexeme
    write " "
    write record.identifier.lexeme
    write " "
    record.initExpr.render write
    write ")"
  | .block record => record.render
  | .stmtList record => record.render
  | .program record => record.render
  | .if record => record.render
  | .while record => record.render
  | .exprStmt record => record.expr.render write

def BlockStmt.render : BlockStmt → m Unit
  | .record _ statements _ => do
    write "(block "
    statements.render
    write ")"

def StmtList.render : StmtList → m Unit
  | .record stmts => renderStmts stmts

/-- Each statement is followed by a line break. -/
def renderStmts : List Stmt → m Unit
  | [] => pure ()
  | stmt :: rest => do
    stmt.render
    write "\n"
    renderStmts rest

def ProgramStmt.render : ProgramStmt → m Unit
  | .record statements _ => do
    write "(program "
    statements.render
    write ")"

def IfStmt.render : IfStmt → m Unit
  | .record _ condition thenClause _ elseClause _ => do
    write "(if "
    condition.render write
    write " then "
    thenClause.render
    match elseClause with
    | none => pure ()
    | some clause => do
      write " else "
      clause.render
    write ")"

def WhileStmt.render : WhileStmt → m Unit
  | .record _ condition block _ => do
    write "(while "
    condition.render write
    write " "
    block.render
    write ")"

end

end

instance : Rendered Stmt := ⟨fun write stmt => stmt.render write⟩

/-! ### The view as a record -/

mutual

def Stmt.toRecord : Stmt → Record
  | .print ⟨printToken, inner⟩ =>
    .mk "Print" "PrintStmt" [("print_token", .token printToken), ("inner", .node inner.toRecord)]
  | .varDecl ⟨varToken, identifier, initExpr⟩ =>
    .mk "VarDecl" "VarDeclStmt" [("var_token", .token varToken),
      ("identifier", .token identifier), ("init_expr", .node initExpr.toRecord)]
  | .block record => record.toRecord "Block"
  | .stmtList record => record.toRecord "StmtList"
  | .program record => record.toRecord "Program"
  | .if record => record.toRecord "If"
  | .while record => record.toRecord "While"
  | .exprStmt ⟨expr⟩ => .mk "ExprStmt" "ExprStmt" [("expr", .node expr.toRecord)]

def BlockStmt.toRecord (tag : Option String) : BlockStmt → Record
  | .record openToken statements closeToken =>
    .mk tag "BlockStmt" [("open_token", .token openToken),
      ("statements", .node (statements.toRecord none)), ("close_token", .token closeToken)]

def StmtList.toRecord (tag : Option String) : StmtList → Record
  | .record stmts => .mk tag "StmtList" [("stmts", .sequence (stmtRecords stmts))]

def stmtRecords : List Stmt → List Record
  | [] => []
  | stmt :: rest => stmt.toRecord :: stmtRecords rest

def ProgramStmt.toRecord (tag : Option String) : ProgramStmt → Record
  | .record statements eofToken =>
    .mk tag "ProgramStmt" [("statements", .node (statements.toRecord none)),
      ("eof_token", .token eofToken)]

def IfStmt.toRecord (tag : Option String) : IfStmt → Record
  | .record ifToken condition thenClause elseToken elseClause endToken =>
    .mk tag "IfStmt" [("if_token", .token ifToken), ("condition", .node condition.toRecord),
      ("then_clause", .node (thenClause.toRecord none)),
      ("else_token", .optionalToken elseToken),
      ("else_clause",
        match elseClause with
        | none => .absent
        | some clause => .present (clause.toRecord none)),
      ("end_token", .token endToken)]

def WhileStmt.toRecord (tag : Option String) : WhileStmt → Record
  | .record whileToken condition block endToken =>
    .mk tag "WhileStmt" [("while_token", .token whileToken),
      ("condition", .node condition.toRecord), ("block", .node (block.toRecord none)),
      ("end_token", .token endToken)]

end

end TreeSchema.Ast
