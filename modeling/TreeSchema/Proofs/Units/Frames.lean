import TreeSchema.Proofs.Units.Emission

/-!
Units around the bodies of their renderers. Schemas that are equal but for the renders of their
nodes have units that are equal but for these bodies.
-/

namespace TreeSchema

open Source

variable {schema first second : Schema} {index : Index} {category : Category} {node : Node}
  {file : File} {record : Record} {collaborators : Collaborators} {c : Nat}

/-! ### Schemas without renders -/

/-- The node with a program that shows nothing. -/
def Node.bare (node : Node) : Node :=
  node.withRender (.custom [])

def Category.bare (category : Category) : Category :=
  { category with nodes := category.nodes.map Node.bare }

def Schema.bare (schema : Schema) : Schema :=
  { schema with categories := schema.categories.map Category.bare }

@[simp] theorem Category.name_bare : category.bare.name = category.name :=
  rfl

@[simp] theorem Category.moduleName_bare : category.bare.moduleName = category.moduleName :=
  rfl

@[simp] theorem Category.fieldTypes_bare : category.bare.fieldTypes = category.fieldTypes := by
  rw [fieldTypes, fieldTypes, bare, List.flatMap_map]
  rfl

theorem declaredNodes_bare (n : Nat) (nodes : List Node) :
    declaredNodes c n (nodes.map Node.bare) = declaredNodes c n nodes := by
  rw [declaredNodes, declaredNodes, List.zipIdx_map, List.map_map]
  rfl

theorem declaredCategories_bare (categories : List Category) :
    declaredCategories c (categories.map Category.bare) = declaredCategories c categories := by
  rw [declaredCategories, declaredCategories, List.zipIdx_map, List.flatMap_map]
  simp [Category.bare, declaredNodes_bare]

namespace Schema

@[simp] theorem getElem?_categories_bare :
    schema.bare.categories[c]? = schema.categories[c]?.map Category.bare :=
  List.getElem?_map

@[simp] theorem nameIndex_bare : schema.bare.nameIndex = schema.nameIndex := by
  rw [nameIndex, nameIndex, bare, declaredCategories_bare]

@[simp] theorem imports_bare (types : List FieldType) :
    imports schema.bare index c types = imports schema index c types := by
  have siblings :
      siblingImports schema.bare index c types = siblingImports schema index c types := by
    simp only [siblingImports, bare, List.zipIdx_map, List.filterMap_map]
    rfl
  rw [imports, imports, siblings]
  rfl

end Schema

/-- The record whose renderer only mentions its formatter. -/
def Source.Record.bare (record : Record) : Record :=
  { record with body := .block [.touch] }

def Source.File.bare (file : File) : File :=
  { file with records := file.records.map Record.bare }

theorem Source.Record.IsOf.bare (isOf : record.IsOf collaborators node) :
    record.bare.IsOf collaborators node.bare :=
  ⟨isOf.name, isOf.tag, isOf.lifetime, isOf.fields, rfl⟩

theorem Source.File.IsOf.bare (isOf : file.IsOf schema index c category) :
    file.bare.IsOf schema.bare index c category.bare where
  union := isOf.union
  module := isOf.module
  arena := isOf.arena
  lexeme := isOf.lexeme
  imports := by
    rw [Schema.imports_bare, Category.fieldTypes_bare]
    exact isOf.imports
  records := by
    rw [Category.bare, File.bare, List.forall₂_map_left_iff, List.forall₂_map_right_iff]
    exact isOf.records.imp fun _ _ => Record.IsOf.bare

/-! ### Frames -/

/-- The text of lines that each end with a line break. -/
def linesText (lines : List String) : String :=
  String.join (lines.map (· ++ "\n"))

/-- A text with a place for the body of each renderer. -/
structure Frame where
  /-- What comes before the first record. -/
  front : String
  /-- For each record, what comes before the body of its renderer. -/
  heads : List String
  deriving DecidableEq, Repr

namespace Frame

/-- The text with bodies in its places. After each body the renderer is closed. -/
def fill (frame : Frame) (bodies : List String) : String :=
  frame.front ++ String.join (List.zipWith (fun head body =>
    head ++ body ++ linesText [indented 1 "\x7d", "\x7d", ""]) frame.heads bodies)

/-- The unit is the frame with the bodies of the nodes' renderers in its places, each right after
the first lines of the renderer. -/
def Around (frame : Frame) (collaborators : Collaborators) (category : Category)
    (unit : SourceUnit) : Prop :=
  ∃ records, category.nodes.mapM (·.record? collaborators) = some records ∧
    List.Forall₂ (fun record head => ∃ front, head = front ++ linesText record.rendererHead)
      records frame.heads ∧
    unit.source = frame.fill (records.map fun record =>
      linesText (record.body.lines collaborators.lexeme))

end Frame

theorem linesText_append (front back : List String) :
    linesText (front ++ back) = linesText front ++ linesText back := by
  rw [linesText, List.map_append, String.join_append, linesText, linesText]

theorem linesText_flatMap {α : Type} (lines : α → List String) (list : List α) :
    linesText (list.flatMap lines) = String.join (list.map fun a => linesText (lines a)) := by
  induction list with
  | nil => rfl
  | cons a rest ih => rw [List.flatMap_cons, linesText_append, ih, List.map_cons, String.join_cons]

namespace Source.File

/-- The frame of the file's text. -/
def frame (file : File) : Frame where
  front := linesText (file.header ++ file.importLines ++ file.unionLines ++ file.dispatcher)
  heads := file.records.map fun record =>
    linesText (record.definition ++ record.constructors file ++ record.rendererHead)

theorem text_eq_fill (file : File) : file.text = file.frame.fill (file.records.map fun record =>
    linesText (record.body.lines file.lexeme)) := by
  have filled (record : Record) : linesText (record.definition ++ record.constructors file ++
      record.renderer file.lexeme) =
      linesText (record.definition ++ record.constructors file ++ record.rendererHead) ++
        linesText (record.body.lines file.lexeme) ++
          linesText [indented 1 "\x7d", "\x7d", ""] := by
    simp only [Record.renderer, linesText_append, String.append_assoc]
  calc file.text
    _ = linesText file.lines := rfl
    _ = file.frame.front ++ String.join (file.records.map fun record =>
          linesText (record.definition ++ record.constructors file ++
            record.renderer file.lexeme)) := by
        rw [lines, linesText_append, linesText_flatMap, frame]
    _ = _ := by
        rw [Frame.fill, frame, List.zipWith_map, List.zipWith_self]
        simp only [filled]

/-- No part of the frame is a part of a body. -/
theorem frame_bare : file.bare.frame = file.frame := by
  simp only [frame, unionLines, dispatcher, bare, List.map_map]
  rfl

theorem IsOf.around (isOf : file.IsOf schema index c category) :
    file.frame.Around schema.collaborators category file.unit := by
  refine ⟨file.records, ?_, ?_, ?_⟩
  · simp only [mapM_eq_some_iff_forall₂, Node.record?_eq_some_iff]
    exact isOf.records
  · rw [frame, List.forall₂_map_right_iff]
    exact List.forall₂_same.mpr fun record _ => ⟨_, linesText_append _ _⟩
  · rw [← isOf.lexeme]
    exact file.text_eq_fill

end Source.File

/-! ### Units -/

namespace Schema

theorem index_of_check (checked : schema.check = .ok index) : schema.nameIndex = index :=
  (checkNames_eq_ok_iff_nameIndex.mp (check_eq_ok_iff.mp checked).1).2.2.2

/-- Accepted schemas that are equal but for renders have units of the same categories and modules,
and what is in them besides the bodies of renderers is the same. -/
theorem units_frames {other : Index} (same : first.bare = second.bare)
    (checked : first.check = .ok index) (checkedOther : second.check = .ok other) :
    ∃ units others, first.units = .ok units ∧ second.units = .ok others ∧
      units.map (fun unit => (unit.category, unit.module)) =
        others.map (fun unit => (unit.category, unit.module)) ∧
      ∀ (c : Nat) (category otherCategory : Category), first.categories[c]? = some category →
        second.categories[c]? = some otherCategory →
          ∃ unit otherUnit frame, units[c]? = some unit ∧ others[c]? = some otherUnit ∧
            Frame.Around frame first.collaborators category unit ∧
            Frame.Around frame second.collaborators otherCategory otherUnit := by
  obtain ⟨files, made, hasFiles⟩ := exists_files checked
  obtain ⟨otherFiles, madeOther, hasOther⟩ := exists_files checkedOther
  refine ⟨_, _, units_eq_ok_iff.mpr ⟨files, made, rfl⟩,
    units_eq_ok_iff.mpr ⟨otherFiles, madeOther, rfl⟩, ?_, ?_⟩
  · rw [hasFiles.map_unit, hasOther.map_unit]
    have names := congrArg (fun schema => schema.categories.map fun category =>
      (category.name, category.moduleName)) same
    simpa [bare, Function.comp_def] using names
  · intro c category otherCategory found foundOther
    obtain ⟨file, place, isOf⟩ := hasFiles.exists_file found
    obtain ⟨otherFile, placeOther, isOfOther⟩ := hasOther.exists_file foundOther
    have indices : index = other := by
      rw [← index_of_check checked, ← index_of_check checkedOther, ← nameIndex_bare, same,
        nameIndex_bare]
    have bares : category.bare = otherCategory.bare := by
      have places := congrArg (fun schema => schema.categories[c]?) same
      simpa [found, foundOther] using places
    have bareFile := Category.file?_eq_some_iff.mpr isOf.bare
    rw [same, indices, bares, Category.file?_eq_some_iff.mpr isOfOther.bare] at bareFile
    have frames : file.frame = otherFile.frame := by
      rw [← File.frame_bare, ← Option.some.inj bareFile, File.frame_bare]
    exact ⟨file.unit, otherFile.unit, file.frame, by rw [List.getElem?_map, place, Option.map_some],
      by rw [List.getElem?_map, placeOther, Option.map_some], isOf.around,
      frames ▸ isOfOther.around⟩

/-- A format in one line and a program of several, which shows the fields in another order. -/
theorem units_frames_of_reordered :
    let node (render : Render) : Node := ⟨"CallExpr", "Call",
      [⟨"callee", .token⟩, ⟨"args", .sequence "Expr"⟩, ⟨"value", .node "Expr"⟩], render⟩
    let schema (render : Render) : Schema := ⟨{}, [⟨"Expr", none, [node render]⟩]⟩
    let line : Render := .template "{}({})" ["callee", "value"]
    let steps : Render := .custom [.field "value", .forEach "args" [.literal "\n", .item] ",",
      .field "callee"]
    ∃ index units others unit other frame, (schema line).bare = (schema steps).bare ∧
      (schema line).check = .ok index ∧ (schema steps).check = .ok index ∧
      (schema line).units = .ok units ∧ (schema steps).units = .ok others ∧
      units[0]? = some unit ∧ others[0]? = some other ∧
      Frame.Around frame {} ⟨"Expr", none, [node line]⟩ unit ∧
      Frame.Around frame {} ⟨"Expr", none, [node steps]⟩ other := by
  intro node schema line steps
  let index : Index := ⟨[("CallExpr", .record 0 0), ("Expr", .union 0)]⟩
  have checkedLine : (schema line).check = .ok index :=
    check_eq_ok_of_flat (by decide +kernel) (by decide +kernel) (by decide +kernel)
  have checkedSteps : (schema steps).check = .ok index :=
    check_eq_ok_of_flat (by decide +kernel) (by decide +kernel) (by decide +kernel)
  have same : (schema line).bare = (schema steps).bare := rfl
  obtain ⟨units, others, made, madeOthers, -, each⟩ :=
    units_frames same checkedLine checkedSteps
  obtain ⟨unit, other, frame, place, placeOther, around, aroundOther⟩ := each 0 _ _ rfl rfl
  exact ⟨index, units, others, unit, other, frame, same, checkedLine, checkedSteps, made,
    madeOthers, place, placeOther, around, aroundOther⟩

end Schema

end TreeSchema
