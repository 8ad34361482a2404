import TreeSchema.Proofs.Ast.Schemas
import TreeSchema.Proofs.Render.Renderers
import TreeSchema.Proofs.Units.Constructors

/-!
The trees and the units that their schemas are compiled to. For each tree the renderer of its node
writes its display, and the constructors of its node build it from the values of its fields.
-/

namespace TreeSchema.Ast

open Source

/-- What a constructor builds from parameters that are called like the fields. It stands in the type
`own`, and may be called on a record. -/
def build? (own : String) (self? : Option Record) (values : List (String × Value)) :
    Built → Option Record
  | .self => self?
  | .literal name fields =>
    (fields.mapM fun field => (values.lookup field).map (field, ·)).map
      (.mk none (if name = "Self" then own else name))
  | .variant _ tag record =>
    (build? own self? values record).map fun | .mk _ name fields => .mk (some tag) name fields

/-- What the constructors in a unit of this module build from the fields of a record: the variant at
once, or the bare record, and the variant from that. -/
structure BuiltBy (constructors : List String) (module tag name : String)
    (values : List (String × Value)) : Prop where
  new : (readConstructor? "new" constructors).bind (build? name none values) =
    some (.mk (some tag) name values)
  record : (readConstructor? "record" constructors).bind (build? name none values) =
    some (.mk none name values)
  into : (readConstructor? ("into_" ++ module) constructors).bind
    (build? name (some (.mk none name values)) []) = some (.mk (some tag) name values)

/-- The schema has units, and one of them has a renderer that writes the text for the record of a
variant of the union, and constructors that build the record. -/
def Emits (schema : Schema) (union : String) (text : String) : Record → Prop
  | .mk none _ _ => False
  | .mk (some tag) name values => ∃ units unit node lines constructors shown,
      schema.units = .ok units ∧ unit ∈ units ∧ nodeOf? schema union (some tag) name = some node ∧
      unit.HasLines (node.displayLines lines) ∧
      fieldsShown? schema node.fields values = some shown ∧
      runLines? schema.collaborators.lexeme shown lines = some text ∧
      unit.HasConstructors union node constructors ∧
      BuiltBy constructors unit.module tag name values

variable {schema : Schema} {index : Index} {union tag name text : String} {node : Node}
  {values : List (String × Value)}

theorem map_fst_of_fieldsShown? {fields : List Field} {shown : Values}
    (shows : fieldsShown? schema fields values = some shown) :
    values.map (·.1) = fields.map (·.name) := by
  induction fields generalizing values shown with
  | nil =>
    cases values with
    | nil => rfl
    | cons => cases shows
  | cons field fields ih =>
    cases values with
    | nil => cases shows
    | cons entry rest =>
      obtain ⟨name, value⟩ := entry
      simp only [fieldsShown?] at shows
      split at shows
      next same =>
        obtain ⟨first, -, shows⟩ := Option.bind_eq_some_iff.mp shows
        obtain ⟨others, othersShown, -⟩ := Option.bind_eq_some_iff.mp shows
        rw [List.map_cons, List.map_cons, ih othersShown, same]
      next => cases shows

theorem lookup_of_mem {value : Value} (distinct : (values.map (·.1)).Nodup)
    (member : (name, value) ∈ values) : values.lookup name = some value := by
  obtain ⟨front, back, rfl⟩ := List.append_of_mem member
  refine List.lookup_eq_some_iff.mpr ⟨front, back, rfl, fun entry before => ?_⟩
  rw [List.map_append, List.nodup_append] at distinct
  simpa using (distinct.2.2 entry.1 (List.mem_map_of_mem before) name
    (List.mem_map.mpr ⟨_, List.mem_cons_self, rfl⟩)).symm

/-- Parameters with different names are all put into the fields they are called like. -/
theorem mapM_lookup (distinct : (values.map (·.1)).Nodup) :
    ((values.map (·.1)).mapM fun field => (values.lookup field).map (field, ·)) = some values := by
  rw [mapM_eq_some_iff_forall₂, List.forall₂_map_left_iff, List.forall₂_same]
  rintro ⟨name, value⟩ member
  rw [lookup_of_mem distinct member, Option.map_some]

theorem exists_of_nodeOf? (found : nodeOf? schema union (some tag) name = some node) :
    ∃ category ∈ schema.categories, category.name = union ∧ node ∈ category.nodes ∧
      node.tag = tag ∧ node.name = name := by
  obtain ⟨category, first, member⟩ := Option.bind_eq_some_iff.mp found
  have same := List.find?_some first
  have fits := List.find?_some member
  exact ⟨category, List.mem_of_find?_eq_some first, by simpa using same,
    List.mem_of_find?_eq_some member, by simpa using fits⟩

/-- What a record shows is what its renderer in the units writes, and its constructors build it. -/
theorem emits_of_shown? (checked : schema.check = .ok index)
    (shows : (Record.mk (some tag) name values).shown? schema union = some text) :
    Emits schema union text (.mk (some tag) name values) := by
  rw [Record.shown?] at shows
  obtain ⟨node, found, shows⟩ := Option.bind_eq_some_iff.mp shows
  obtain ⟨shown, fields, means⟩ := Option.bind_eq_some_iff.mp shows
  obtain ⟨category, among, rfl, member, rfl, rfl⟩ := exists_of_nodeOf? found
  obtain ⟨c, place⟩ := List.mem_iff_getElem?.mp among
  obtain ⟨units, made, renderers⟩ := Schema.exists_renderers checked
  obtain ⟨unit, isUnit, holds⟩ := renderers c category place
  obtain ⟨record, isRecord, lines⟩ := holds node member
  rw [isRecord.renderer_eq] at lines
  obtain ⟨written, meaning, run⟩ := Schema.exists_runLines? checked among member isRecord.body
    schema.collaborators.lexeme (conform_of_fieldsShown? fields)
  obtain rfl := Option.some.inj (meaning.symm.trans means)
  obtain ⟨others, madeToo, constructors⟩ := Schema.exists_constructors checked
  obtain rfl := Except.ok.inj (made.symm.trans madeToo)
  obtain ⟨another, isUnitToo, has⟩ := constructors c category place
  obtain rfl := Option.some.inj (isUnit.symm.trans isUnitToo)
  obtain ⟨functions, hasConstructors⟩ := has node member
  have distinct : (node.fields.map (·.name)).Nodup :=
    (((Schema.wellFormed_of_check checked).categories category among).nodes node member).distinct
  rw [← map_fst_of_fieldsShown? fields] at distinct
  have put := mapM_lookup distinct
  rw [map_fst_of_fieldsShown? fields] at put
  refine ⟨units, unit, node, _, functions, shown, made, List.mem_of_getElem? isUnit, found, lines,
    fields, run, hasConstructors, ?_, ?_, ?_⟩
  · rw [hasConstructors.new, Option.bind_some, build?, build?, put, Option.map_some,
      Option.map_some, ite_self]
  · rw [hasConstructors.record, Option.bind_some, build?, put, Option.map_some, if_pos rfl]
  · rw [hasConstructors.into]
    rfl

/-! ### The two schemas -/

theorem check_calcSchema : ∃ index, calcSchema.check = .ok index := by
  have names : checkNames calcSchema.collaborators.reservedNames 0 ⟨[], .empty⟩
      calcSchema.categories = .ok calcSchema.nameIndex := by
    decide +kernel
  exact ⟨_, Schema.check_eq_ok_of_flat names (by decide +kernel) (by decide +kernel)⟩

/-- The block of a branch or a loop holds a list of statements, as the program does. -/
theorem check_programSchema : ∃ index, programSchema.check = .ok index := by
  have names : checkNames programSchema.collaborators.reservedNames 0 ⟨[], .empty⟩
      programSchema.categories = .ok programSchema.nameIndex := by
    decide +kernel
  let rank (position : Nat × Nat) : Nat := [0, 0, 1, 0, 1, 2, 2, 0].getD position.2 0
  exact ⟨_, Schema.check_eq_ok_of_ranked rank names (by decide +kernel) (by decide +kernel)⟩

/-! ### The trees

What the trees show is what the units write, and the two ways to build a node of which
`ConstructorsAgree` speaks are those that the units offer. -/

theorem Expr.exists_toRecord (tree : Expr) :
    ∃ tag name values, tree.toRecord = .mk (some tag) name values := by
  cases tree with
  | number => exact ⟨_, _, _, by rw [Expr.toRecord]⟩
  | string => exact ⟨_, _, _, by rw [Expr.toRecord]⟩
  | var => exact ⟨_, _, _, by rw [Expr.toRecord]⟩
  | bool => exact ⟨_, _, _, by rw [Expr.toRecord]⟩
  | group record =>
    cases record
    exact ⟨_, _, _, by rw [Expr.toRecord, GroupExpr.toRecord]⟩
  | unary record =>
    cases record
    exact ⟨_, _, _, by rw [Expr.toRecord, PrefixExpr.toRecord]⟩
  | binary record =>
    cases record
    exact ⟨_, _, _, by rw [Expr.toRecord, InfixExpr.toRecord]⟩

theorem Expr.emits (tree : Expr) : Emits programSchema "Expr" (display tree) tree.toRecord := by
  obtain ⟨index, checked⟩ := check_programSchema
  obtain ⟨tag, name, values, same⟩ := tree.exists_toRecord
  have shows := tree.shown?_toRecord
  rw [same] at shows ⊢
  rw [display, tree.isWrittenBy_pieces.pieces_eq]
  exact emits_of_shown? checked shows

theorem Stmt.exists_toRecord (tree : Stmt) :
    ∃ tag name values, tree.toRecord = .mk (some tag) name values := by
  cases tree with
  | print => exact ⟨_, _, _, by rw [Stmt.toRecord]⟩
  | varDecl => exact ⟨_, _, _, by rw [Stmt.toRecord]⟩
  | exprStmt => exact ⟨_, _, _, by rw [Stmt.toRecord]⟩
  | block record =>
    cases record
    exact ⟨_, _, _, by rw [Stmt.toRecord, BlockStmt.toRecord]⟩
  | stmtList record =>
    cases record
    exact ⟨_, _, _, by rw [Stmt.toRecord, StmtList.toRecord]⟩
  | program record =>
    cases record
    exact ⟨_, _, _, by rw [Stmt.toRecord, ProgramStmt.toRecord]⟩
  | «if» record =>
    obtain ⟨ifToken, condition, thenClause, elseToken, elseClause, endToken⟩ := record
    cases elseClause
    · exact ⟨_, _, _, by rw [Stmt.toRecord, IfStmt.toRecord]⟩
    · exact ⟨_, _, _, by rw [Stmt.toRecord, IfStmt.toRecord]⟩
  | «while» record =>
    cases record
    exact ⟨_, _, _, by rw [Stmt.toRecord, WhileStmt.toRecord]⟩

theorem Stmt.emits (tree : Stmt) : Emits programSchema "Stmt" (display tree) tree.toRecord := by
  obtain ⟨index, checked⟩ := check_programSchema
  obtain ⟨tag, name, values, same⟩ := tree.exists_toRecord
  have shows := tree.shown?_toRecord
  rw [same] at shows ⊢
  rw [display, tree.isWrittenBy_pieces.pieces_eq]
  exact emits_of_shown? checked shows

theorem Calc.exists_toRecord (tree : Calc) :
    ∃ tag name values, tree.toRecord = .mk (some tag) name values := by
  cases tree with
  | num => exact ⟨_, _, _, by rw [Calc.toRecord]⟩
  | name => exact ⟨_, _, _, by rw [Calc.toRecord]⟩
  | unit => exact ⟨_, _, _, by rw [Calc.toRecord]⟩
  | binary record =>
    cases record
    exact ⟨_, _, _, by rw [Calc.toRecord, InfixCalc.toRecord]⟩
  | polish record =>
    cases record
    exact ⟨_, _, _, by rw [Calc.toRecord, PolishCalc.toRecord]⟩
  | list record =>
    cases record
    exact ⟨_, _, _, by rw [Calc.toRecord, ListCalc.toRecord]⟩
  | «return» record =>
    obtain ⟨keyword, value⟩ := record
    cases value
    · exact ⟨_, _, _, by rw [Calc.toRecord, ReturnCalc.toRecord]⟩
    · exact ⟨_, _, _, by rw [Calc.toRecord, ReturnCalc.toRecord]⟩
  | label record =>
    cases record
    exact ⟨_, _, _, by rw [Calc.toRecord, LabelCalc.toRecord]⟩

theorem Calc.emits (tree : Calc) : Emits calcSchema "Calc" (display tree) tree.toRecord := by
  obtain ⟨index, checked⟩ := check_calcSchema
  obtain ⟨tag, name, values, same⟩ := tree.exists_toRecord
  have shows := tree.shown?_toRecord
  rw [same] at shows ⊢
  rw [display, tree.isWrittenBy_pieces.pieces_eq]
  exact emits_of_shown? checked shows

end TreeSchema.Ast
