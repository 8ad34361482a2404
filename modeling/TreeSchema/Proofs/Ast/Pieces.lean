import TreeSchema.Ast.Calc
import TreeSchema.Ast.Stmt

/-!
The pieces of a tree. A tree is written by writing its pieces one after the other, so whatever a
refused piece does, it does the same at any depth of the tree.
-/

namespace TreeSchema

/-! ### Numbers -/

namespace Decimal

variable {style : Style}

theorem flatten_zeroRuns (count : Nat) : (zeroRuns count).flatten = List.replicate count '0' := by
  unfold zeroRuns
  dsimp only
  have covered : (count - 1) / maxZeros * maxZeros ≤ count :=
    Nat.le_trans (Nat.div_mul_le_self _ _) (Nat.sub_le _ _)
  by_cases none : count = 0
  · simp [none, maxZeros]
  · rw [if_neg none, List.flatten_append, List.flatten_replicate_replicate, List.flatten_singleton,
      List.replicate_append_replicate, Nat.add_sub_cancel' covered]

theorem flatten_positionalPieces (digits : List Char) (place : Int) :
    (positionalPieces digits place).flatten = positionalText digits place false := by
  unfold positionalPieces positionalText
  split
  · simp [flatten_zeroRuns]
  · dsimp only
    split
    · simp [flatten_zeroRuns]
    · simp

theorem flatten_signPieces (negative : Bool) :
    (signPieces negative).flatten = if negative then ['-'] else [] := by
  cases negative <;> rfl

/-- The pieces of a number make up its text in every style that never has an exponent. -/
theorem flatten_pieces (positional : ∀ exponent, style.positional exponent = true)
    (points : style.keepsPoint = false) (parts : Parts) :
    (parts.pieces style.tie).flatten = style.parts parts := by
  cases parts with
  | nan => rfl
  | infinite negative => simp [Parts.pieces, Style.parts, flatten_signPieces]
  | zero negative => simp [Parts.pieces, Style.parts, flatten_signPieces, points, positionalText]
  | finite negative mantissa exponent =>
    simp [Parts.pieces, Style.parts, flatten_signPieces, Style.numeral, positional, points,
      flatten_positionalPieces]

end Decimal

namespace Ast

theorem join_floatPieces (value : Float) :
    String.join (floatPieces value) = floatDisplay.write value := by
  rw [← String.toList_inj, floatPieces, Decimal.Style.write, String.toList_ofList,
    ← Decimal.flatten_pieces (fun _ => rfl) rfl]
  simp [List.flatMap_map, List.flatMap_id']

/-! ### Expressions -/

mutual

def Expr.pieces : Expr → List String
  | .number record => [record.token.lexeme]
  | .string record => [record.token.lexeme]
  | .var record => [record.identifier.lexeme]
  | .bool record => [record.token.lexeme]
  | .group record => record.pieces
  | .unary record => record.pieces
  | .binary record => record.pieces

def GroupExpr.pieces : GroupExpr → List String
  | .record _ inner _ => "(" :: inner.pieces ++ [")"]

def PrefixExpr.pieces : PrefixExpr → List String
  | .record operator inner => "(" :: operator.lexeme :: " " :: inner.pieces ++ [")"]

def InfixExpr.pieces : InfixExpr → List String
  | .record left operator right =>
    "(" :: operator.lexeme :: " " :: left.pieces ++ " " :: right.pieces ++ [")"]

end

/-! ### Statements -/

mutual

def Stmt.pieces : Stmt → List String
  | .print record => "(print " :: record.inner.pieces ++ [")"]
  | .varDecl record =>
    "(" :: record.varToken.lexeme :: " " :: record.identifier.lexeme :: " " ::
      record.initExpr.pieces ++ [")"]
  | .block record => record.pieces
  | .stmtList record => record.pieces
  | .program record => record.pieces
  | .if record => record.pieces
  | .while record => record.pieces
  | .exprStmt record => record.expr.pieces

def BlockStmt.pieces : BlockStmt → List String
  | .record _ statements _ => "(block " :: statements.pieces ++ [")"]

def StmtList.pieces : StmtList → List String
  | .record stmts => stmtPieces stmts

def stmtPieces : List Stmt → List String
  | [] => []
  | stmt :: rest => stmt.pieces ++ "\n" :: stmtPieces rest

def ProgramStmt.pieces : ProgramStmt → List String
  | .record statements _ => "(program " :: statements.pieces ++ [")"]

def IfStmt.pieces : IfStmt → List String
  | .record _ condition thenClause _ elseClause _ =>
    "(if " :: condition.pieces ++ " then " :: thenClause.pieces ++
      (match elseClause with
        | none => []
        | some clause => " else " :: clause.pieces) ++ [")"]

def WhileStmt.pieces : WhileStmt → List String
  | .record _ condition block _ =>
    "(while " :: condition.pieces ++ " " :: block.pieces ++ [")"]

end

/-! ### Calculations -/

mutual

def Calc.pieces : Calc → List String
  | .num record => floatPieces record.value
  | .name record => [record.name.text]
  | .binary record => record.pieces
  | .polish record => record.pieces
  | .list record => record.pieces
  | .return record => record.pieces
  | .label record => record.pieces
  | .unit _ => []

def InfixCalc.pieces : InfixCalc → List String
  | .record left operator right =>
    "(" :: left.pieces ++ " " :: operator.lexeme :: " " :: right.pieces ++ [")"]

def PolishCalc.pieces : PolishCalc → List String
  | .record left operator right =>
    "(" :: operator.lexeme :: " " :: left.pieces ++ " " :: right.pieces ++ [")"]

def ListCalc.pieces : ListCalc → List String
  | .record items => "(list " :: itemPieces items ++ [")"]

def itemPieces : List Calc → List String
  | [] => []
  | item :: rest => item.pieces ++ ";" :: itemPieces rest

def ReturnCalc.pieces : ReturnCalc → List String
  | .record _ value =>
    "(return" ::
      (match value with
        | none => []
        | some value => " " :: value.pieces) ++ [")"]

def LabelCalc.pieces : LabelCalc → List String
  | .record inner label =>
    inner.pieces ++
      match label with
      | none => []
      | some token => [" @", token.lexeme]

end

/-! ### Writing -/

section

variable {m : Type → Type} [Monad m] (write : String → m Unit)

mutual

theorem Expr.render_eq_forM [LawfulMonad m] :
    (tree : Expr) → tree.render write = tree.pieces.forM write
  | .number _ | .string _ | .var _ | .bool _ => by simp [Expr.render, Expr.pieces]
  | .group record => by rw [Expr.render, Expr.pieces, record.render_eq_forM]
  | .unary record => by rw [Expr.render, Expr.pieces, record.render_eq_forM]
  | .binary record => by rw [Expr.render, Expr.pieces, record.render_eq_forM]

theorem GroupExpr.render_eq_forM [LawfulMonad m] :
    (record : GroupExpr) → record.render write = record.pieces.forM write
  | .record _ inner _ => by
    simp [GroupExpr.render, GroupExpr.pieces, inner.render_eq_forM]

theorem PrefixExpr.render_eq_forM [LawfulMonad m] :
    (record : PrefixExpr) → record.render write = record.pieces.forM write
  | .record _ inner => by
    simp [PrefixExpr.render, PrefixExpr.pieces, inner.render_eq_forM]

theorem InfixExpr.render_eq_forM [LawfulMonad m] :
    (record : InfixExpr) → record.render write = record.pieces.forM write
  | .record left _ right => by
    simp [InfixExpr.render, InfixExpr.pieces, left.render_eq_forM, right.render_eq_forM]

end

mutual

theorem Stmt.render_eq_forM [LawfulMonad m] :
    (tree : Stmt) → tree.render write = tree.pieces.forM write
  | .print record => by
    simp [Stmt.render, Stmt.pieces, record.inner.render_eq_forM]
  | .varDecl record => by
    simp [Stmt.render, Stmt.pieces, record.initExpr.render_eq_forM]
  | .block record => by rw [Stmt.render, Stmt.pieces, record.render_eq_forM]
  | .stmtList record => by rw [Stmt.render, Stmt.pieces, record.render_eq_forM]
  | .program record => by rw [Stmt.render, Stmt.pieces, record.render_eq_forM]
  | .if record => by rw [Stmt.render, Stmt.pieces, record.render_eq_forM]
  | .while record => by rw [Stmt.render, Stmt.pieces, record.render_eq_forM]
  | .exprStmt record => by rw [Stmt.render, Stmt.pieces, record.expr.render_eq_forM]

theorem BlockStmt.render_eq_forM [LawfulMonad m] :
    (record : BlockStmt) → record.render write = record.pieces.forM write
  | .record _ statements _ => by
    simp [BlockStmt.render, BlockStmt.pieces, statements.render_eq_forM]

theorem StmtList.render_eq_forM [LawfulMonad m] :
    (record : StmtList) → record.render write = record.pieces.forM write
  | .record stmts => by rw [StmtList.render, StmtList.pieces, renderStmts_eq_forM stmts]

theorem renderStmts_eq_forM [LawfulMonad m] :
    (stmts : List Stmt) → renderStmts write stmts = (stmtPieces stmts).forM write
  | [] => rfl
  | stmt :: rest => by
    simp [renderStmts, stmtPieces, stmt.render_eq_forM, renderStmts_eq_forM rest]

theorem ProgramStmt.render_eq_forM [LawfulMonad m] :
    (record : ProgramStmt) → record.render write = record.pieces.forM write
  | .record statements _ => by
    simp [ProgramStmt.render, ProgramStmt.pieces, statements.render_eq_forM]

theorem IfStmt.render_eq_forM [LawfulMonad m] :
    (record : IfStmt) → record.render write = record.pieces.forM write
  | .record _ condition thenClause _ none _ => by
    simp [IfStmt.render, IfStmt.pieces, condition.render_eq_forM, thenClause.render_eq_forM]
  | .record _ condition thenClause _ (some clause) _ => by
    simp [IfStmt.render, IfStmt.pieces, condition.render_eq_forM, thenClause.render_eq_forM,
      clause.render_eq_forM]

theorem WhileStmt.render_eq_forM [LawfulMonad m] :
    (record : WhileStmt) → record.render write = record.pieces.forM write
  | .record _ condition block _ => by
    simp [WhileStmt.render, WhileStmt.pieces, condition.render_eq_forM, block.render_eq_forM]

end

mutual

theorem Calc.render_eq_forM [LawfulMonad m] :
    (tree : Calc) → tree.render write = tree.pieces.forM write
  | .num _ => rfl
  | .name _ => by simp [Calc.render, Calc.pieces]
  | .binary record => by rw [Calc.render, Calc.pieces, record.render_eq_forM]
  | .polish record => by rw [Calc.render, Calc.pieces, record.render_eq_forM]
  | .list record => by rw [Calc.render, Calc.pieces, record.render_eq_forM]
  | .return record => by rw [Calc.render, Calc.pieces, record.render_eq_forM]
  | .label record => by rw [Calc.render, Calc.pieces, record.render_eq_forM]
  | .unit _ => rfl

theorem InfixCalc.render_eq_forM [LawfulMonad m] :
    (record : InfixCalc) → record.render write = record.pieces.forM write
  | .record left _ right => by
    simp [InfixCalc.render, InfixCalc.pieces, left.render_eq_forM, right.render_eq_forM]

theorem PolishCalc.render_eq_forM [LawfulMonad m] :
    (record : PolishCalc) → record.render write = record.pieces.forM write
  | .record left _ right => by
    simp [PolishCalc.render, PolishCalc.pieces, left.render_eq_forM, right.render_eq_forM]

theorem ListCalc.render_eq_forM [LawfulMonad m] :
    (record : ListCalc) → record.render write = record.pieces.forM write
  | .record items => by
    simp [ListCalc.render, ListCalc.pieces, renderItems_eq_forM items]

theorem renderItems_eq_forM [LawfulMonad m] :
    (items : List Calc) → renderItems write items = (itemPieces items).forM write
  | [] => rfl
  | item :: rest => by
    simp [renderItems, itemPieces, item.render_eq_forM, renderItems_eq_forM rest]

theorem ReturnCalc.render_eq_forM [LawfulMonad m] :
    (record : ReturnCalc) → record.render write = record.pieces.forM write
  | .record _ none => by simp [ReturnCalc.render, ReturnCalc.pieces]
  | .record _ (some value) => by
    simp [ReturnCalc.render, ReturnCalc.pieces, value.render_eq_forM]

theorem LabelCalc.render_eq_forM [LawfulMonad m] :
    (record : LabelCalc) → record.render write = record.pieces.forM write
  | .record inner none => by simp [LabelCalc.render, LabelCalc.pieces, inner.render_eq_forM]
  | .record inner (some _) => by simp [LabelCalc.render, LabelCalc.pieces, inner.render_eq_forM]

end

end

/-! ### Values -/

/-- Writing the value is writing these pieces in order, whatever writing does. -/
structure IsWrittenBy {α : Type} [Rendered α] (value : α) (parts : List String) : Prop where
  render_eq : ∀ {m : Type → Type} [Monad m] [LawfulMonad m] (write : String → m Unit),
    Rendered.render write value = parts.forM write

theorem Expr.isWrittenBy_pieces (tree : Expr) : IsWrittenBy tree tree.pieces :=
  ⟨fun write => tree.render_eq_forM write⟩

theorem Stmt.isWrittenBy_pieces (tree : Stmt) : IsWrittenBy tree tree.pieces :=
  ⟨fun write => tree.render_eq_forM write⟩

theorem Calc.isWrittenBy_pieces (tree : Calc) : IsWrittenBy tree tree.pieces :=
  ⟨fun write => tree.render_eq_forM write⟩

theorem run_forM_append (parts written : List String) :
    StateT.run (m := Id) (forM parts fun piece => modify (· ++ [piece])) written =
      pure ((), written ++ parts) := by
  induction parts generalizing written with
  | nil => simp
  | cons piece rest ih => simp [ih]

/-- The pieces that a value is written by are the ones that are met when all are taken. -/
theorem IsWrittenBy.pieces_eq {α : Type} [Rendered α] {value : α} {parts : List String}
    (written : IsWrittenBy value parts) : pieces value = parts := by
  unfold pieces
  dsimp only
  rw [written.render_eq, List.forM_eq_forM, run_forM_append]
  rfl

end Ast

end TreeSchema
