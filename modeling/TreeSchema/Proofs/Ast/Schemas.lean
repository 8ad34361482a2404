import TreeSchema.Proofs.Ast.Interpretation
import TreeSchema.Proofs.Ast.Pieces

/-!
The trees mean what their schemas say. Rendering a tree is one recursion over its own types; read as
records and shown by the rendering programs of its schema, it gives the same text.
-/

namespace TreeSchema.Ast

attribute [local simp] Value.shown? fieldsShown? Node.meaning? RenderOp.meaning? meanings?
  Values.text? List.lookup_cons Item.text Template.fill

/-! ### Expressions -/

mutual

theorem Expr.shown?_toRecord :
    (tree : Expr) → tree.toRecord.shown? programSchema "Expr" = some (String.join tree.pieces)
  | .number _ => by
    rw [Expr.toRecord, Record.shown?_of_node NumberExpr.node rfl]
    simp [NumberExpr.node, Expr.pieces]
  | .string _ => by
    rw [Expr.toRecord, Record.shown?_of_node StringExpr.node rfl]
    simp [StringExpr.node, Expr.pieces]
  | .var _ => by
    rw [Expr.toRecord, Record.shown?_of_node VarExpr.node rfl]
    simp [VarExpr.node, Expr.pieces]
  | .bool _ => by
    rw [Expr.toRecord, Record.shown?_of_node BoolExpr.node rfl]
    simp [BoolExpr.node, Expr.pieces]
  | .group record => record.shown?_toRecord
  | .unary record => record.shown?_toRecord
  | .binary record => record.shown?_toRecord

theorem GroupExpr.shown?_toRecord : (record : GroupExpr) →
    (record.toRecord "Group").shown? programSchema "Expr" = some (String.join record.pieces)
  | .record _ inner _ => by
    have innerShown := inner.shown?_toRecord
    rw [GroupExpr.toRecord, Record.shown?_of_node GroupExpr.node rfl]
    simp [GroupExpr.node, innerShown, GroupExpr.pieces, ← String.toList_inj]

theorem PrefixExpr.shown?_toRecord : (record : PrefixExpr) →
    (record.toRecord "Prefix").shown? programSchema "Expr" = some (String.join record.pieces)
  | .record operator inner => by
    have innerShown := inner.shown?_toRecord
    rw [PrefixExpr.toRecord, Record.shown?_of_node PrefixExpr.node rfl]
    simp [PrefixExpr.node, innerShown, PrefixExpr.pieces, ← String.toList_inj]

theorem InfixExpr.shown?_toRecord : (record : InfixExpr) →
    (record.toRecord "Infix").shown? programSchema "Expr" = some (String.join record.pieces)
  | .record left operator right => by
    have leftShown := left.shown?_toRecord
    have rightShown := right.shown?_toRecord
    rw [InfixExpr.toRecord, Record.shown?_of_node InfixExpr.node rfl]
    simp [InfixExpr.node, leftShown, rightShown, InfixExpr.pieces, ← String.toList_inj]

end

/-! ### Statements

A block or a list of statements shows the same in the union and by itself: the node is found either
way. -/

mutual

theorem Stmt.shown?_toRecord :
    (tree : Stmt) → tree.toRecord.shown? programSchema "Stmt" = some (String.join tree.pieces)
  | .print record => by
    have innerShown := record.inner.shown?_toRecord
    rw [Stmt.toRecord, Record.shown?_of_node PrintStmt.node rfl]
    simp [PrintStmt.node, innerShown, Stmt.pieces, ← String.toList_inj]
  | .varDecl record => by
    have initShown := record.initExpr.shown?_toRecord
    rw [Stmt.toRecord, Record.shown?_of_node VarDeclStmt.node rfl]
    simp [VarDeclStmt.node, initShown, Stmt.pieces, ← String.toList_inj]
  | .block record => record.shown?_toRecord rfl
  | .stmtList record => record.shown?_toRecord rfl
  | .program record => record.shown?_toRecord
  | .if record => record.shown?_toRecord
  | .while record => record.shown?_toRecord
  | .exprStmt record => by
    have exprShown := record.expr.shown?_toRecord
    rw [Stmt.toRecord, Record.shown?_of_node ExprStmt.node rfl]
    simp [ExprStmt.node, exprShown, Stmt.pieces, ← String.toList_inj]

theorem BlockStmt.shown?_toRecord : (record : BlockStmt) → ∀ {target : String}
    {tag : Option String}, nodeOf? programSchema target tag "BlockStmt" = some BlockStmt.node →
      (record.toRecord tag).shown? programSchema target = some (String.join record.pieces)
  | .record _ statements _, _, _, found => by
    have statementsShown : (statements.toRecord none).shown? programSchema "StmtList" = _ :=
      statements.shown?_toRecord rfl
    rw [BlockStmt.toRecord, Record.shown?_of_node BlockStmt.node found]
    simp [BlockStmt.node, statementsShown, BlockStmt.pieces, ← String.toList_inj]

theorem StmtList.shown?_toRecord : (record : StmtList) → ∀ {target : String}
    {tag : Option String}, nodeOf? programSchema target tag "StmtList" = some StmtList.node →
      (record.toRecord tag).shown? programSchema target = some (String.join record.pieces)
  | .record stmts, _, _, found => by
    obtain ⟨texts, stmtsShown, joined⟩ := exists_recordsShown?_stmtRecords stmts
    have each : texts.mapM (fun text => some (text ++ "\n")) = some (texts.map (· ++ "\n")) :=
      List.mapM_pure
    rw [StmtList.toRecord, Record.shown?_of_node StmtList.node found]
    simp [StmtList.node, stmtsShown, Function.comp_def, each, StmtList.pieces, joined]

theorem exists_recordsShown?_stmtRecords : (stmts : List Stmt) →
    ∃ texts, recordsShown? programSchema "Stmt" (stmtRecords stmts) = some texts ∧
      String.join (stmtPieces stmts) = String.join (texts.map (· ++ "\n"))
  | [] => ⟨[], rfl, rfl⟩
  | stmt :: rest => by
    obtain ⟨texts, restShown, joined⟩ := exists_recordsShown?_stmtRecords rest
    refine ⟨String.join stmt.pieces :: texts, ?_, ?_⟩
    · rw [stmtRecords, recordsShown?, stmt.shown?_toRecord, restShown]
      rfl
    · rw [stmtPieces, String.join_append, String.join_cons, joined, List.map_cons, String.join_cons,
        String.append_assoc]

theorem ProgramStmt.shown?_toRecord : (record : ProgramStmt) →
    (record.toRecord "Program").shown? programSchema "Stmt" = some (String.join record.pieces)
  | .record statements _ => by
    have statementsShown : (statements.toRecord none).shown? programSchema "StmtList" = _ :=
      statements.shown?_toRecord rfl
    rw [ProgramStmt.toRecord, Record.shown?_of_node ProgramStmt.node rfl]
    simp [ProgramStmt.node, statementsShown, ProgramStmt.pieces, ← String.toList_inj]

theorem IfStmt.shown?_toRecord : (record : IfStmt) →
    (record.toRecord "If").shown? programSchema "Stmt" = some (String.join record.pieces)
  | .record _ condition thenClause _ none _ => by
    have conditionShown := condition.shown?_toRecord
    have thenShown : (thenClause.toRecord none).shown? programSchema "BlockStmt" = _ :=
      thenClause.shown?_toRecord rfl
    rw [IfStmt.toRecord, Record.shown?_of_node IfStmt.node rfl]
    simp [IfStmt.node, conditionShown, thenShown, IfStmt.pieces]
  | .record _ condition thenClause _ (some clause) _ => by
    have conditionShown := condition.shown?_toRecord
    have thenShown : (thenClause.toRecord none).shown? programSchema "BlockStmt" = _ :=
      thenClause.shown?_toRecord rfl
    have elseShown : (clause.toRecord none).shown? programSchema "BlockStmt" = _ :=
      clause.shown?_toRecord rfl
    rw [IfStmt.toRecord, Record.shown?_of_node IfStmt.node rfl]
    simp [IfStmt.node, conditionShown, thenShown, elseShown, IfStmt.pieces, ← String.toList_inj]

theorem WhileStmt.shown?_toRecord : (record : WhileStmt) →
    (record.toRecord "While").shown? programSchema "Stmt" = some (String.join record.pieces)
  | .record _ condition block _ => by
    have conditionShown := condition.shown?_toRecord
    have blockShown : (block.toRecord none).shown? programSchema "BlockStmt" = _ :=
      block.shown?_toRecord rfl
    rw [WhileStmt.toRecord, Record.shown?_of_node WhileStmt.node rfl]
    simp [WhileStmt.node, conditionShown, blockShown, WhileStmt.pieces, ← String.toList_inj]

end

/-! ### Calculations -/

mutual

theorem Calc.shown?_toRecord :
    (tree : Calc) → tree.toRecord.shown? calcSchema "Calc" = some (String.join tree.pieces)
  | .num record => by
    rw [Calc.toRecord, Record.shown?_of_node NumCalc.node rfl]
    simp [NumCalc.node, Calc.pieces, join_floatPieces]
  | .name _ => by
    rw [Calc.toRecord, Record.shown?_of_node NameCalc.node rfl]
    simp [NameCalc.node, Calc.pieces]
  | .binary record => record.shown?_toRecord
  | .polish record => record.shown?_toRecord
  | .list record => record.shown?_toRecord
  | .return record => record.shown?_toRecord
  | .label record => record.shown?_toRecord
  | .unit _ => by
    rw [Calc.toRecord, Record.shown?_of_node UnitCalc.node rfl]
    simp [UnitCalc.node, Calc.pieces]

theorem InfixCalc.shown?_toRecord : (record : InfixCalc) →
    (record.toRecord "Infix").shown? calcSchema "Calc" = some (String.join record.pieces)
  | .record left operator right => by
    have leftShown := left.shown?_toRecord
    have rightShown := right.shown?_toRecord
    rw [InfixCalc.toRecord, Record.shown?_of_node InfixCalc.node rfl]
    simp [InfixCalc.node, leftShown, rightShown, InfixCalc.pieces, ← String.toList_inj]

theorem PolishCalc.shown?_toRecord : (record : PolishCalc) →
    (record.toRecord "Polish").shown? calcSchema "Calc" = some (String.join record.pieces)
  | .record left operator right => by
    have leftShown := left.shown?_toRecord
    have rightShown := right.shown?_toRecord
    rw [PolishCalc.toRecord, Record.shown?_of_node PolishCalc.node rfl]
    simp [PolishCalc.node, leftShown, rightShown, PolishCalc.pieces, ← String.toList_inj]

theorem ListCalc.shown?_toRecord : (record : ListCalc) →
    (record.toRecord "List").shown? calcSchema "Calc" = some (String.join record.pieces)
  | .record items => by
    obtain ⟨texts, itemsShown, joined⟩ := exists_recordsShown?_calcRecords items
    have each : texts.mapM (fun text => some (text ++ ";")) = some (texts.map (· ++ ";")) :=
      List.mapM_pure
    rw [ListCalc.toRecord, Record.shown?_of_node ListCalc.node rfl]
    simp [ListCalc.node, itemsShown, Function.comp_def, each, ListCalc.pieces, ← joined]

theorem exists_recordsShown?_calcRecords : (items : List Calc) →
    ∃ texts, recordsShown? calcSchema "Calc" (calcRecords items) = some texts ∧
      String.join (itemPieces items) = String.join (texts.map (· ++ ";"))
  | [] => ⟨[], rfl, rfl⟩
  | item :: rest => by
    obtain ⟨texts, restShown, joined⟩ := exists_recordsShown?_calcRecords rest
    refine ⟨String.join item.pieces :: texts, ?_, ?_⟩
    · rw [calcRecords, recordsShown?, item.shown?_toRecord, restShown]
      rfl
    · rw [itemPieces, String.join_append, String.join_cons, joined, List.map_cons, String.join_cons,
        String.append_assoc]

theorem ReturnCalc.shown?_toRecord : (record : ReturnCalc) →
    (record.toRecord "Return").shown? calcSchema "Calc" = some (String.join record.pieces)
  | .record _ none => by
    rw [ReturnCalc.toRecord, Record.shown?_of_node ReturnCalc.node rfl]
    simp [ReturnCalc.node, ReturnCalc.pieces]
  | .record _ (some value) => by
    have valueShown := value.shown?_toRecord
    rw [ReturnCalc.toRecord, Record.shown?_of_node ReturnCalc.node rfl]
    simp [ReturnCalc.node, valueShown, ReturnCalc.pieces, ← String.toList_inj]

theorem LabelCalc.shown?_toRecord : (record : LabelCalc) →
    (record.toRecord "Label").shown? calcSchema "Calc" = some (String.join record.pieces)
  | .record inner label => by
    have innerShown := inner.shown?_toRecord
    rw [LabelCalc.toRecord, Record.shown?_of_node LabelCalc.node rfl]
    cases label with
    | none => simp [LabelCalc.node, innerShown, LabelCalc.pieces]
    | some token => simp [LabelCalc.node, innerShown, LabelCalc.pieces]

end

/-! ### Both ways to build a node -/

/-- A node that is made in the union is its record put into the union. -/
structure ConstructorsAgree : Prop where
  numberExpr : ∀ token number, NumberExpr.new token number = NumberExpr.intoExpr ⟨token, number⟩
  stringExpr : ∀ token string, StringExpr.new token string = StringExpr.intoExpr ⟨token, string⟩
  varExpr : ∀ identifier, VarExpr.new identifier = VarExpr.intoExpr ⟨identifier⟩
  boolExpr : ∀ token value, BoolExpr.new token value = BoolExpr.intoExpr ⟨token, value⟩
  groupExpr : ∀ parenOpen inner parenClose,
    GroupExpr.new parenOpen inner parenClose =
      GroupExpr.intoExpr (.record parenOpen inner parenClose)
  prefixExpr : ∀ operator inner,
    PrefixExpr.new operator inner = PrefixExpr.intoExpr (.record operator inner)
  infixExpr : ∀ left operator right,
    InfixExpr.new left operator right = InfixExpr.intoExpr (.record left operator right)
  printStmt : ∀ printToken inner,
    PrintStmt.new printToken inner = PrintStmt.intoStmt ⟨printToken, inner⟩
  varDeclStmt : ∀ varToken identifier initExpr,
    VarDeclStmt.new varToken identifier initExpr =
      VarDeclStmt.intoStmt ⟨varToken, identifier, initExpr⟩
  blockStmt : ∀ openToken statements closeToken,
    BlockStmt.new openToken statements closeToken =
      BlockStmt.intoStmt (.record openToken statements closeToken)
  stmtList : ∀ stmts, StmtList.new stmts = StmtList.intoStmt (.record stmts)
  programStmt : ∀ statements eofToken,
    ProgramStmt.new statements eofToken = ProgramStmt.intoStmt (.record statements eofToken)
  ifStmt : ∀ ifToken condition thenClause elseToken elseClause endToken,
    IfStmt.new ifToken condition thenClause elseToken elseClause endToken =
      IfStmt.intoStmt (.record ifToken condition thenClause elseToken elseClause endToken)
  whileStmt : ∀ whileToken condition block endToken,
    WhileStmt.new whileToken condition block endToken =
      WhileStmt.intoStmt (.record whileToken condition block endToken)
  exprStmt : ∀ expr, ExprStmt.new expr = ExprStmt.intoStmt ⟨expr⟩
  numCalc : ∀ token value, NumCalc.new token value = NumCalc.intoCalc ⟨token, value⟩
  nameCalc : ∀ identifier name, NameCalc.new identifier name = NameCalc.intoCalc ⟨identifier, name⟩
  infixCalc : ∀ left operator right,
    InfixCalc.new left operator right = InfixCalc.intoCalc (.record left operator right)
  polishCalc : ∀ left operator right,
    PolishCalc.new left operator right = PolishCalc.intoCalc (.record left operator right)
  listCalc : ∀ items, ListCalc.new items = ListCalc.intoCalc (.record items)
  returnCalc : ∀ keyword value,
    ReturnCalc.new keyword value = ReturnCalc.intoCalc (.record keyword value)
  labelCalc : ∀ inner label,
    LabelCalc.new inner label = LabelCalc.intoCalc (.record inner label)
  unitCalc : UnitCalc.new = UnitCalc.intoCalc ⟨⟩

theorem constructorsAgree : ConstructorsAgree := by
  constructor <;> intros <;> rfl

/-- The display of a tree is what the rendering programs of its schema show, however its nodes were
built. -/
theorem display_eq_shown :
    (∀ tree : Expr, tree.toRecord.shown? programSchema "Expr" = some (display tree)) ∧
      (∀ tree : Stmt, tree.toRecord.shown? programSchema "Stmt" = some (display tree)) ∧
      (∀ tree : Calc, tree.toRecord.shown? calcSchema "Calc" = some (display tree)) ∧
      ConstructorsAgree := by
  refine ⟨fun tree => ?_, fun tree => ?_, fun tree => ?_, constructorsAgree⟩
  · rw [display, tree.isWrittenBy_pieces.pieces_eq, tree.shown?_toRecord]
  · rw [display, tree.isWrittenBy_pieces.pieces_eq, tree.shown?_toRecord]
  · rw [display, tree.isWrittenBy_pieces.pieces_eq, tree.shown?_toRecord]

end TreeSchema.Ast
