import TreeSchema.Proofs.Output.Atomicity
import TreeSchema.Proofs.Output.Contents

/-!
What is there when units have been written: every unit's file in its place, with what the formatter
made of the source, and nothing left of what was there on the way or before.
-/

namespace TreeSchema

open Store

/-! ### Finishing -/

namespace Work

open Staged

variable {place : String → Path} {written : Store} {work : Work} {entry : Staged} {aside : Bool}

theorem finish_entry (reached : entry.Reached place work.store)
    (nodup : (entry.paths place).Nodup) (moved : entry.Moved place written work.store aside) :
    ∃ store, work.finish [(entry, aside)] = ⟨store, work.log ++ [.wrote entry.target]⟩ ∧
      ChangedAt (entry.paths place) work.store store ∧ entry.Settled place written store := by
  obtain ⟨-, stagedBackup, targetBackup⟩ := ne_of_paths_nodup nodup
  cases aside with
  | false =>
    obtain ⟨backup, absent⟩ := moved.ofFresh rfl
    exact ⟨work.store, rfl, ChangedAt.refl _ _, moved.staged, moved.target, .inr ⟨absent, backup⟩⟩
  | true =>
    obtain ⟨kept, content, previous⟩ := moved.ofAside rfl
    obtain ⟨store, removed, changed, left⟩ := remove_spec reached.backup
      ⟨.file content, kept.trans previous, by simp⟩
    refine ⟨store, ?_, changed.mono (by simp [Staged.paths]), ?_, ?_,
      .inl ⟨⟨content, previous⟩, ?_⟩⟩
    · simp only [finish, List.foldl_cons, List.foldl_nil, if_true, attempt_eq removed, report]
    · rw [left, if_neg stagedBackup, moved.staged]
    · rw [left, if_neg targetBackup, moved.target]
    · rw [left, if_pos rfl]

/-- Finishing removes what was moved aside, without a warning, and reports the files in order. -/
theorem finish_spec (work : Work) {moves : List (Staged × Bool)}
    (apart : Apart place (moves.map (·.1)))
    (reached : ∀ move ∈ moves, move.1.Reached place work.store)
    (done : ∀ move ∈ moves, move.1.Moved place written work.store move.2) :
    ∃ store, work.finish moves =
        ⟨store, work.log ++ moves.map fun move => .wrote move.1.target⟩ ∧
      ChangedAt ((moves.map (·.1)).flatMap (Staged.paths place)) work.store store ∧
      ∀ move ∈ moves, move.1.Settled place written store := by
  have handles : Handles place (fun work move => work.finish [move])
      (fun move => [.wrote move.1.target])
      (fun now move => move.1.Moved place written now move.2)
      fun now move => move.1.Settled place written now :=
    fun work move reached nodup moved => finish_entry reached nodup moved
  have settled : Framed place fun now move => move.1.Settled place written now :=
    fun move _ _ _ changed outside settled => settled.frame changed outside
  obtain ⟨store, result, left⟩ := handles.foldl framed_moved settled work apart reached done
  refine ⟨store, ?_, left⟩
  calc work.finish moves
    _ = moves.foldl (fun work move => work.finish [move]) work := rfl
    _ = ⟨store, work.log ++ moves.map fun move => .wrote move.1.target⟩ := by
      rw [result, List.map_eq_flatMap]

end Work

/-! ### The result -/

namespace Store

variable {before after : Store} {directory : String} {unit : SourceUnit} {units : List SourceUnit}
  {format? : Option FormatStep} {path : Path}

/-- A file was where the unit belongs. -/
def HadFile (before after : Store) (directory : String) (unit : SourceUnit) : Prop :=
  ∃ path content, after.resolve (Staged.ofUnit directory unit).target = .ok path ∧
    before.get? path = some (.file content)

/-- The path is the unit's place, or one where its file or the one it takes the place of was
meanwhile. -/
def IsConcerned (before after : Store) (directory : String) (unit : SourceUnit) (path : Path) :
    Prop :=
  after.resolve (Staged.ofUnit directory unit).target = .ok path ∨
  after.resolve (Staged.ofUnit directory unit).staged = .ok path ∨
  (before.HadFile after directory unit ∧
    after.resolve (Staged.ofUnit directory unit).backup = .ok path)

/-- Only staged files and directories on the way are new or changed. -/
def StagedOnly (before written : Store) (directory : String) (units : List SourceUnit) : Prop :=
  ∀ path, (∀ unit ∈ units, written.resolve (Staged.ofUnit directory unit).staged ≠ .ok path) →
    written.get? path = before.get? path ∨ before.MadeOnWay written directory path

/-- Every unit is in its place, and else nothing is new but directories on the way. -/
structure Installed (before after : Store) (directory : String) (units : List SourceUnit)
    (format? : Option FormatStep) : Prop where
  /-- The file of a unit holds what one run of the formatter made of the source, which was staged at
  the time, as other units may have been. -/
  target : ∀ unit ∈ units, ∃ written content, before.StagedOnly written directory units ∧
    FormatsTo format? (Staged.ofUnit directory unit).staged unit.source.toUTF8 content written ∧
    after.lookup? (Staged.ofUnit directory unit).target = some (.file content)
  staged : ∀ unit ∈ units, after.lookup? (Staged.ofUnit directory unit).staged = none
  backup : ∀ unit ∈ units, before.HadFile after directory unit →
    after.lookup? (Staged.ofUnit directory unit).backup = none
  elsewhere : ∀ path, (∀ unit ∈ units, ¬before.IsConcerned after directory unit path) →
    after.get? path = before.get? path ∨ before.MadeOnWay after directory path

theorem isConcerned_iff_of_grown {middle : Store} {base : Path} {steps : List String}
    (grown : Grown base steps before middle) :
    middle.IsConcerned after directory unit path ↔ before.IsConcerned after directory unit path := by
  simp only [IsConcerned, HadFile, grown.get?_eq_file_iff]

/-- If a unit's backup differs only where a file was in the unit's place, then nothing differs that
no unit is concerned with. -/
theorem same_of_not_isConcerned {place : String → Path}
    (changed : ChangedAt ((units.map (Staged.ofUnit directory)).flatMap (Staged.paths place))
      before after)
    (reached : ∀ unit ∈ units, (Staged.ofUnit directory unit).Reached place after)
    (backup : ∀ unit ∈ units,
      (∃ content, before.get? (place (Staged.ofUnit directory unit).target) =
        some (.file content)) ∨
      after.get? (place (Staged.ofUnit directory unit).backup) =
        before.get? (place (Staged.ofUnit directory unit).backup))
    (other : ∀ unit ∈ units, ¬before.IsConcerned after directory unit path) :
    after.get? path = before.get? path := by
  by_cases inside : path ∈ (units.map (Staged.ofUnit directory)).flatMap (Staged.paths place)
  · obtain ⟨entry, among, mine⟩ := List.mem_flatMap.mp inside
    obtain ⟨unit, member, rfl⟩ := List.mem_map.mp among
    have reached := reached unit member
    have other := other unit member
    simp only [Staged.paths, List.mem_cons, List.not_mem_nil, or_false] at mine
    rcases mine with rfl | rfl | rfl
    · exact absurd (.inr (.inl reached.staged.resolve)) other
    · exact absurd (.inl reached.target.resolve) other
    · rcases backup unit member with ⟨content, file⟩ | kept
      · have had : before.HadFile after directory unit :=
          ⟨_, content, reached.target.resolve, file⟩
        exact absurd (.inr (.inr ⟨had, reached.backup.resolve⟩)) other
      · exact kept
  · exact changed.same path inside

end Store

namespace Work

open Staged

variable {work staged moved result : Work} {directory : String} {units : List SourceUnit}
  {unit : SourceUnit} {format? : Option FormatStep} {place : String → Path}
  {before middle after : Store} {paths : List String} {entries : List Staged}
  {moves : List (Staged × Bool)}

/-- Once all are staged, moving them into place and cleaning up leaves each of them settled. -/
theorem settled_of_commit (apart : Apart place entries)
    (ready : ∀ entry ∈ entries, Ready place staged.store entry)
    (committed : commit [] staged entries = (moved, .ok moves)) :
    moves.map (·.1) = entries ∧ ∃ store, (moved.finish moves).store = store ∧
      ChangedAt (entries.flatMap (Staged.paths place)) staged.store store ∧
      ∀ entry ∈ entries, entry.Settled place staged.store store := by
  obtain ⟨middle, rfl, order, underway⟩ := commit_ok (Underway.start apart ready) committed
  obtain rfl : moves.map (·.1) = entries := by simpa using order
  have changed := underway.changed
  have done : ∀ move ∈ moves, move.1.Moved place staged.store middle move.2 :=
    fun move member => underway.done move (List.mem_reverse.mpr member)
  obtain ⟨store, finished, changedLast, settled⟩ :=
    finish_spec { staged with store := middle } apart
    (fun move member => (ready move.1 (List.mem_map_of_mem member)).reached.changed changed) done
  refine ⟨rfl, store, by rw [finished], ?_, List.forall_mem_map.mpr settled⟩
  have reversed : (moves.reverse.map (·.1)).flatMap (Staged.paths place) ⊆
      (moves.map (·.1)).flatMap (Staged.paths place) := by
    intro path member
    simpa using member
  exact (changed.mono reversed).trans changedLast

/-- From the store in which the directories are made, through the one in which all units are staged,
to the one in which they are in place. -/
structure InstalledFrom (place : String → Path) (middle written after : Store) (directory : String)
    (units : List SourceUnit) (format? : Option FormatStep) : Prop where
  apart : Apart place (units.map (Staged.ofUnit directory))
  staged : ChangedAt ((units.map (Staged.ofUnit directory)).map fun entry => place entry.staged)
    middle written
  changed : ChangedAt ((units.map (Staged.ofUnit directory)).flatMap (Staged.paths place))
    middle after
  reached : ∀ unit ∈ units, (Staged.ofUnit directory unit).Reached place middle
  holds : ∀ unit ∈ units, Holds format? middle written
    ((units.map (Staged.ofUnit directory)).map fun entry => place entry.staged)
    (Staged.ofUnit directory unit).staged unit.source.toUTF8
    (place (Staged.ofUnit directory unit).staged)
  settled : ∀ unit ∈ units, (Staged.ofUnit directory unit).Settled place written after

namespace InstalledFrom

variable {written : Store}
  (installed : InstalledFrom place middle written after directory units format?)
  (grown : Grown (before.base directory) (pathSteps directory) before middle)
include installed

theorem reached_after (member : unit ∈ units) :
    (Staged.ofUnit directory unit).Reached place after :=
  (installed.reached unit member).changed installed.changed

/-- Staging changes neither a target nor what stands where it will be moved aside. -/
theorem same_before_moving (member : unit ∈ units) :
    written.get? (place (Staged.ofUnit directory unit).target) =
        middle.get? (place (Staged.ofUnit directory unit).target) ∧
      written.get? (place (Staged.ofUnit directory unit).backup) =
        middle.get? (place (Staged.ofUnit directory unit).backup) := by
  obtain ⟨target, backup⟩ := installed.apart.notMem_staged (List.mem_map_of_mem member)
  exact ⟨installed.staged.same _ target, installed.staged.same _ backup⟩

include grown

/-- The file that a unit replaces is the one that was there at first. -/
theorem hadFile_iff (member : unit ∈ units) :
    before.HadFile after directory unit ↔
      ∃ content, written.get? (place (Staged.ofUnit directory unit).target) =
        some (.file content) := by
  have resolved := (installed.reached_after member).target.resolve
  simp only [(installed.same_before_moving member).1, grown.get?_eq_file_iff]
  constructor
  · rintro ⟨path, content, leads, found⟩
    obtain rfl := Except.ok.inj (resolved.symm.trans leads)
    exact ⟨content, found⟩
  · rintro ⟨content, found⟩
    exact ⟨_, content, resolved, found⟩

theorem stagedOnly {touched : Store} (changed : ChangedAt
      ((units.map (Staged.ofUnit directory)).map fun entry => place entry.staged) middle touched) :
    before.StagedOnly touched directory units := by
  intro path other
  refine grown.each_of_same (fun path => (changed.directory path).mpr) (changed.same path ?_)
  rintro inside
  simp only [List.map_map, List.mem_map, Function.comp] at inside
  obtain ⟨unit, member, rfl⟩ := inside
  exact other unit member (changed.leads (installed.reached unit member).staged).resolve

theorem same_elsewhere
    (other : ∀ unit ∈ units, ¬before.IsConcerned after directory unit path) :
    after.get? path = middle.get? path := by
  refine same_of_not_isConcerned installed.changed
    (fun unit member => installed.reached_after member) (fun unit member => ?_)
    (fun unit member => mt (isConcerned_iff_of_grown grown).mp (other unit member))
  obtain ⟨target, backup⟩ := installed.same_before_moving member
  rcases (installed.settled unit member).backup with ⟨⟨content, file⟩, -⟩ | ⟨-, kept⟩
  · exact .inl ⟨content, target.symm.trans file⟩
  · exact .inr (kept.trans backup)

theorem isInstalled : before.Installed after directory units format? where
  target unit member := by
    obtain ⟨store, content, changed, formats, found⟩ := installed.holds unit member
    have reached := installed.reached_after member
    refine ⟨store, content, installed.stagedOnly grown changed, formats, ?_⟩
    rw [reached.target.lookup?_eq, (installed.settled unit member).target, found]
  staged unit member := by
    rw [(installed.reached_after member).staged.lookup?_eq]
    exact (installed.settled unit member).staged
  backup unit member had := by
    rw [(installed.reached_after member).backup.lookup?_eq]
    obtain ⟨content, found⟩ := (installed.hadFile_iff grown member).mp had
    rcases (installed.settled unit member).backup with ⟨-, gone⟩ | ⟨absent, -⟩
    · exact gone
    · exact absurd (absent.symm.trans found) (by simp)
  elsewhere path other :=
    grown.each_of_same (fun path => (installed.changed.directory path).mpr)
      (installed.same_elsewhere grown other)

end InstalledFrom

theorem installedFrom_of_commit (separate : SourceUnit.Separate units)
    (confined : ∀ format ∈ format?, format.Confined) (inPlace : work.store.DeviceInPlace)
    (run : stage directory format? work units = (staged, entries, none))
    (committed : commit [] staged entries = (moved, .ok moves)) :
    moves.map (·.1) = units.map (Staged.ofUnit directory) ∧
      InstalledFrom work.store.place work.store staged.store (moved.finish moves).store directory
        units format? := by
  have places := places_place work.store
  have stagedFrom : StagedFrom work.store.place work.store (units.map (Staged.ofUnit directory))
      (staged, entries, none) := run ▸ stage_spec directory places separate confined
  obtain rfl : entries = units.map (Staged.ofUnit directory) := stagedFrom.complete rfl
  have leads := List.forall_mem_map.mp stagedFrom.leads
  have apart := Staged.apart_ofUnits places separate leads
  have ready := ready_of_stagedFrom places separate inPlace stagedFrom
  have noDevice : ∀ unit ∈ units,
      work.store.get? (work.store.place (Staged.ofUnit directory unit).staged) ≠ some .null := by
    intro unit member
    obtain ⟨here, -, paths, -⟩ := Staged.paths_ofUnit places (separate.nameable unit member)
      (leads unit member)
    rw [(List.cons.inj paths).1]
    exact inPlace.ne_null here (by simp [String.toList_append])
  obtain ⟨order, store, rfl, changed, settled⟩ := settled_of_commit apart ready committed
  refine ⟨order, apart, stagedFrom.changed,
    (stagedFrom.changed.mono Staged.staged_subset_paths).trans changed, fun unit member => ?_,
    stage_holds places separate confined noDevice run, List.forall_mem_map.mp settled⟩
  exact (Staged.paths_ofUnit places (separate.nameable unit member)
    (leads unit member)).choose_spec.2.2

/-- When units have been written, the answer is the paths of their files in order. Directories have
been made on the way, and from there every unit has come into its place. -/
theorem installedFrom_of_writeUnits_ok (separate : SourceUnit.Separate units)
    (confined : ∀ format ∈ format?, format.Confined) (inPlace : work.store.DeviceInPlace)
    (done : work.writeUnits directory units format? = (result, .ok paths)) :
    paths = units.map (fun unit => joinPath directory unit.fileName) ∧ ∃ middle written,
      Grown (work.store.base directory) (pathSteps directory) work.store middle ∧
      InstalledFrom middle.place middle written result.store directory units format? := by
  cases writes_of_writeUnits done with
  | moved made run committed =>
    have grown := grown_of_makeDirectories made
    obtain ⟨order, installed⟩ :=
      installedFrom_of_commit separate confined (inPlace.grown grown) run committed
    refine ⟨?_, _, _, grown, installed⟩
    have targets := congrArg (List.map Staged.target) order
    simpa only [List.map_map, Function.comp_def, Staged.ofUnit] using targets

/-- When units have been written, the answer is the paths of their files in order, and every unit is
in its place. -/
theorem writeUnits_ok_installed (separate : SourceUnit.Separate units)
    (confined : ∀ format ∈ format?, format.Confined) (inPlace : work.store.DeviceInPlace)
    (done : work.writeUnits directory units format? = (result, .ok paths)) :
    paths = units.map (fun unit => joinPath directory unit.fileName) ∧
      work.store.Installed result.store directory units format? := by
  obtain ⟨order, middle, written, grown, installed⟩ :=
    installedFrom_of_writeUnits_ok separate confined inPlace done
  exact ⟨order, installed.isInstalled grown⟩

/-- Of two units the first takes the place of a file, and the content that both end with is the
formatter's. -/
theorem writeUnits_over_file_installed :
    let store : Store :=
      (((Store.empty.put ["tmp", "work", "out"] .directory).put
        ["tmp", "work", "out", "expr.rs"] (.file "enum Expr {}".toUTF8)).put
        ["tmp", "work", "out", "expr.old.rs"] (.file "".toUTF8)).put
        ["tmp", "work", "out", "stmt.old.rs"] (.file "".toUTF8)
    let units : List SourceUnit := [⟨"Expr", "expr", "enum Expr { }"⟩, ⟨"Stmt", "stmt", ""⟩]
    ∃ result, (start store).writeUnits "out" units (some (.fill "// formatted".toUTF8)) =
        (result, .ok ["out/expr.rs", "out/stmt.rs"]) ∧
      store.Installed result.store "out" units (some (.fill "// formatted".toUTF8)) := by
  intro store units
  have done : ((start store).writeUnits "out" units (some (.fill "// formatted".toUTF8))).2 =
      .ok ["out/expr.rs", "out/stmt.rs"] := by
    decide +kernel
  have separate : SourceUnit.Separate units := by
    refine ⟨fun unit member => ?_, by decide⟩
    simp only [units, List.mem_cons, List.not_mem_nil, or_false] at member
    rcases member with rfl | rfl <;> exact ⟨by decide, by decide, by decide⟩
  have inPlace : store.DeviceInPlace := by
    repeat' refine Store.DeviceInPlace.put ?_ (by simp) (by simp)
    exact Store.deviceInPlace_empty
  have confined : ∀ format ∈ some (FormatStep.fill "// formatted".toUTF8), format.Confined := by
    rintro format ⟨⟩
    exact FormatStep.fill_confined _
  rcases run : (start store).writeUnits "out" units (some (.fill "// formatted".toUTF8))
    with ⟨result, answer⟩
  rw [run] at done
  obtain rfl : answer = .ok ["out/expr.rs", "out/stmt.rs"] := done
  exact ⟨result, rfl, (writeUnits_ok_installed separate confined inPlace run).2⟩

end Work

end TreeSchema
