import TreeSchema.Proofs.Output.Installation
import TreeSchema.Proofs.Text.Words
import TreeSchema.Proofs.Units.Emission

/-!
What writing units leaves alone, whether it succeeds or fails: every file but the ones in the places
of the units and under the names their files have on the way.
-/

namespace TreeSchema

open Store Source

/-! ### Generated units -/

/-- A name in snake case can be a module of files. -/
theorem SourceUnit.nameable_of_accepts {unit : SourceUnit}
    (written : NameStyle.snake.accepts unit.module = true) : unit.Nameable := by
  have chars : ∀ c ∈ unit.module.toList, Text.FromDigits c := by
    intro c inside
    rw [← NameStyle.snakeCaseChars_of_accepts written] at inside
    exact Text.fromDigits_of_mem_snakeCaseChars inside
  exact ⟨fun inside => absurd (chars _ inside) (by decide),
    fun inside => absurd (chars _ inside) (by decide),
    fun inside => absurd (chars _ inside) (by decide)⟩

/-- The units of a schema can be written side by side. -/
theorem Schema.separate_of_units {schema : Schema} {units : List SourceUnit}
    (made : schema.units = .ok units) : SourceUnit.Separate units := by
  obtain ⟨index, files, checked, -, -⟩ := exists_files_of_units made
  have wellFormed := wellFormed_of_check checked
  have modules := map_module_of_units made
  refine ⟨fun unit member => ?_, modules ▸ wellFormed.modules⟩
  have among : unit.module ∈ schema.categories.map (·.moduleName) :=
    modules ▸ List.mem_map_of_mem member
  obtain ⟨category, inSchema, named⟩ := List.mem_map.mp among
  refine SourceUnit.nameable_of_accepts ?_
  rw [← named]
  exact (wellFormed.categories category inSchema).module.written

/-- One category with one node, which has no fields. -/
def leafSchema : Schema := ⟨{}, [⟨"Expr", none, [⟨"LeafExpr", "Leaf", [], .custom []⟩]⟩]⟩

def leafFile : File :=
  ⟨"Expr", "expr", "Bump", "lexeme", [.path "bumpalo::Bump"],
    [⟨"LeafExpr", "Leaf", false, [], .block [.touch]⟩]⟩

theorem units_leafSchema : leafSchema.units = .ok [leafFile.unit] := by
  let index : Index := ⟨[("LeafExpr", .record 0 0), ("Expr", .union 0)]⟩
  have names : checkNames leafSchema.collaborators.reservedNames 0 ⟨[], .empty⟩
      leafSchema.categories = .ok index := by
    decide +kernel
  have nodes : checkNodes leafSchema index 0 leafSchema.categories = .ok () := by
    decide +kernel
  have embedding : leafSchema.checkEmbedding index = .ok () := by
    have records : leafSchema.records = [(0, 0)] := by decide
    have embedded : leafSchema.embedded index (0, 0) = [] := by decide
    simp [Schema.checkEmbedding, Graph.cycle?, Graph.visitAll, Graph.visit, records, embedded]
  have checked : leafSchema.check = .ok index :=
    Schema.check_eq_ok_iff.mpr ⟨names, nodes, embedding⟩
  refine Schema.units_eq_ok_iff.mpr ⟨[leafFile], ?_, rfl⟩
  rw [Schema.files, checked]
  rfl

/-! ### Files that are kept -/

namespace Work

variable {work result : Work} {directory : String} {schema : Schema} {units : List SourceUnit}
  {format? : Option FormatStep} {failure : Failure} {entries : List Staged} {path : Path}

theorem same_of_stage_error (separate : SourceUnit.Separate units)
    (confined : ∀ format ∈ format?, format.Confined)
    (run : stage directory format? work units = (result, entries, some failure))
    (other : ∀ unit ∈ units,
      ¬work.store.IsConcerned (result.discard entries).store directory unit path) :
    (result.discard entries).store.get? path = work.store.get? path := by
  obtain ⟨front, among, after, same, changed, gone⟩ :=
    discarded_of_stage_error separate confined run
  rw [same] at other ⊢
  refine changed.same path fun inside => ?_
  obtain ⟨entry, member, rfl⟩ := List.mem_map.mp inside
  obtain ⟨unit, inFront, rfl⟩ := List.mem_map.mp member
  exact other unit (among inFront) (.inr (.inl (gone unit inFront).1.resolve))

/-- What is moved aside when a unit is undone is the file in its place. -/
theorem same_of_commit_error (separate : SourceUnit.Separate units)
    (confined : ∀ format ∈ format?, format.Confined) (inPlace : work.store.DeviceInPlace)
    {staged : Work} (run : stage directory format? work units = (staged, entries, none))
    (refused : commit [] staged entries = (result, .error failure))
    (other : ∀ unit ∈ units, ¬work.store.IsConcerned result.store directory unit path) :
    result.store.get? path = work.store.get? path := by
  obtain ⟨changed, undone⟩ := undone_of_commit_error separate confined inPlace run refused
  refine same_of_not_isConcerned changed (fun unit member => (undone unit member).1)
    (fun unit member => ?_) other
  exact (undone unit member).2.backup.imp_left And.left

/-- Whether units are written or not, a file stays as it was unless it is in the place of a unit,
has the name of a staged one, or the name under which a file in the place of a unit is moved
aside. -/
theorem writeUnits_keeps_file {answer : Except Failure (List String)} {content : ByteArray}
    (made : schema.units = .ok units) (confined : ∀ format ∈ format?, format.Confined)
    (inPlace : work.store.DeviceInPlace)
    (run : work.writeUnits directory units format? = (result, answer))
    (found : work.store.get? path = some (.file content))
    (other : ∀ unit ∈ units, ¬work.store.IsConcerned result.store directory unit path) :
    result.store.get? path = some (.file content) := by
  have separate := Schema.separate_of_units made
  obtain ⟨middle, grown, same⟩ : ∃ middle,
      Grown (work.store.base directory) (pathSteps directory) work.store middle ∧
      result.store.get? path = middle.get? path := by
    cases writes_of_writeUnits run with
    | notMade step => exact ⟨_, grown_of_makeDirectories step, rfl⟩
    | notStaged step stopped =>
      have grown := grown_of_makeDirectories step
      refine ⟨_, grown, same_of_stage_error separate confined stopped fun unit member => ?_⟩
      exact mt (isConcerned_iff_of_grown grown).mp (other unit member)
    | notMoved step all refused =>
      have grown := grown_of_makeDirectories step
      refine ⟨_, grown, same_of_commit_error separate confined (inPlace.grown grown) all refused
        fun unit member => ?_⟩
      exact mt (isConcerned_iff_of_grown grown).mp (other unit member)
    | moved step all committed =>
      have grown := grown_of_makeDirectories step
      obtain ⟨-, installed⟩ :=
        installedFrom_of_commit separate confined (inPlace.grown grown) all committed
      exact ⟨_, grown, installed.same_elsewhere grown other⟩
  rw [same]
  exact grown.get?_eq_file_iff.mpr found

/-- The unit finds a directory in its place. No file is moved aside then, so the file that has the
name for it stays. -/
theorem writeUnits_onto_directory_keeps_file :
    let store : Store :=
      ((Store.empty.put ["tmp", "work", "out"] .directory).put
        ["tmp", "work", "out", "expr.rs"] .directory).put
        ["tmp", "work", "out", "expr.old.rs"] (.file "// mine".toUTF8)
    ∃ result, (start store).writeUnits "out" [leafFile.unit] none =
        (result, .error (.sink "out/expr.rs" .isDirectory)) ∧
      result.store.get? ["tmp", "work", "out", "expr.old.rs"] = some (.file "// mine".toUTF8) := by
  intro store
  have failed : ((start store).writeUnits "out" [leafFile.unit] none).2 =
      .error (.sink "out/expr.rs" .isDirectory) := by
    decide +kernel
  have target : ((start store).writeUnits "out" [leafFile.unit] none).1.store.resolve
      (Staged.ofUnit "out" leafFile.unit).target = .ok ["tmp", "work", "out", "expr.rs"] := by
    decide +kernel
  have staged : ((start store).writeUnits "out" [leafFile.unit] none).1.store.resolve
      (Staged.ofUnit "out" leafFile.unit).staged = .ok ["tmp", "work", "out", "expr.tmp.rs"] := by
    decide +kernel
  have inPlace : store.DeviceInPlace := by
    repeat' refine Store.DeviceInPlace.put ?_ (by simp) (by simp)
    exact Store.deviceInPlace_empty
  have directory : store.get? ["tmp", "work", "out", "expr.rs"] = some .directory := by
    rfl
  rcases run : (start store).writeUnits "out" [leafFile.unit] none with ⟨result, answer⟩
  rw [run] at failed target staged
  obtain rfl : answer = .error (.sink "out/expr.rs" .isDirectory) := failed
  refine ⟨result, rfl, writeUnits_keeps_file units_leafSchema (by simp) inPlace run rfl ?_⟩
  intro unit member concerned
  obtain rfl := List.mem_singleton.mp member
  rcases concerned with here | here | ⟨⟨path, content, leads, file⟩, -⟩
  · exact absurd (target.symm.trans here) (by decide)
  · exact absurd (staged.symm.trans here) (by decide)
  · obtain rfl := Except.ok.inj (target.symm.trans leads)
    exact absurd (directory.symm.trans file) (by simp)

/-- A file that bears the name of a staged one is overwritten and moved away. -/
theorem staged_name_taken :
    ¬∀ (store : Store) (directory : String) (schema : Schema) (units : List SourceUnit)
      (format? : Option FormatStep) (result : Work) (answer : Except Failure (List String))
      (path : Path) (content : ByteArray),
      schema.units = .ok units → (∀ format ∈ format?, format.Confined) → store.DeviceInPlace →
      (start store).writeUnits directory units format? = (result, answer) →
      store.get? path = some (.file content) →
      (∀ unit ∈ units, result.store.resolve (Staged.ofUnit directory unit).target ≠ .ok path) →
      result.store.get? path = some (.file content) := by
  intro kept
  let store : Store :=
    (Store.empty.put ["tmp", "work", "out"] .directory).put
      ["tmp", "work", "out", "expr.tmp.rs"] (.file "// mine".toUTF8)
  have inPlace : store.DeviceInPlace := by
    repeat' refine Store.DeviceInPlace.put ?_ (by simp) (by simp)
    exact Store.deviceInPlace_empty
  have target : ((start store).writeUnits "out" [leafFile.unit] none).1.store.resolve
      (Staged.ofUnit "out" leafFile.unit).target = .ok ["tmp", "work", "out", "expr.rs"] := by
    decide +kernel
  have gone : (((start store).writeUnits "out" [leafFile.unit] none).1.store.get?
      ["tmp", "work", "out", "expr.tmp.rs"]).isSome = false := by
    decide +kernel
  rcases run : (start store).writeUnits "out" [leafFile.unit] none with ⟨result, answer⟩
  rw [run] at target gone
  have found := kept store "out" leafSchema [leafFile.unit] none result answer
    ["tmp", "work", "out", "expr.tmp.rs"] "// mine".toUTF8 units_leafSchema (by simp) inPlace run
    rfl (by simp [target])
  rw [found] at gone
  exact absurd gone (by decide)

end Work

end TreeSchema
