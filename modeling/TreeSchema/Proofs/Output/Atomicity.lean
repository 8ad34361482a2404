import TreeSchema.Proofs.Output.Committing
import TreeSchema.Proofs.Output.Outcomes
import TreeSchema.Proofs.Output.Staging
import TreeSchema.Proofs.Store.Making

/-!
Writing units is all or nothing. When it fails, at whatever unit and in whatever step, what was in
the place of a unit is there again, and nothing is left that was not there before but directories on
the way to the one that is written to.
-/

namespace TreeSchema

open Store

namespace Store

variable {before middle after store : Store} {directory : String} {units : List SourceUnit}
  {path : Path}

/-- The null device is where every system has it, and what is elsewhere is a file or directory. -/
def DeviceInPlace (store : Store) : Prop :=
  ∀ path, store.get? path = some .null → path = ["dev", "null"]

theorem deviceInPlace_empty : empty.DeviceInPlace := by
  intro path device
  have known : ∀ entry ∈ empty.entries, entry.2 = .null → entry.1 = ["dev", "null"] := by
    simp [empty, systemDirectories]
  unfold get? at device
  split at device
  · cases device
  · obtain ⟨front, back, parts, -⟩ := List.lookup_eq_some_iff.mp device
    exact known (path, .null) (parts ▸ List.mem_append_right _ List.mem_cons_self) rfl

theorem DeviceInPlace.put {entry : Entry} (h : store.DeviceInPlace) (other : entry ≠ .null)
    (inside : path ≠ []) : (store.put path entry).DeviceInPlace := by
  intro place device
  rw [get?_put store place entry inside] at device
  split at device
  · exact absurd (Option.some.inj device) other
  · exact h place device

theorem DeviceInPlace.grown {base : Path} {steps : List String} (h : before.DeviceInPlace)
    (grown : Grown base steps before after) : after.DeviceInPlace := by
  intro path device
  rcases grown.each path with same | new
  · exact h path (same.symm.trans device)
  · exact absurd (new.made.symm.trans device) (by simp)

/-- A name with a point in it is not the device's. -/
theorem DeviceInPlace.ne_null (h : store.DeviceInPlace) (here : Path) {name : String}
    (point : '.' ∈ name.toList) : store.get? (here ++ [name]) ≠ some .null := by
  intro device
  have last : name = "null" := by simpa using congrArg List.getLast? (h _ device)
  rw [last] at point
  exact absurd point (by decide)

/-- The path is one that a unit's file has on its way, or that its predecessor has meanwhile. -/
def IsTemporary (store : Store) (directory : String) (units : List SourceUnit) (path : Path) :
    Prop :=
  ∃ unit ∈ units, store.resolve (Staged.ofUnit directory unit).staged = .ok path ∨
    store.resolve (Staged.ofUnit directory unit).backup = .ok path

/-- A directory that was made on the way to another. -/
abbrev MadeOnWay (before after : Store) (directory : String) (path : Path) : Prop :=
  NewOnWay (before.base directory) (pathSteps directory) before after path

/-- Nothing that was there is lost or changed but for temporary files, and nothing is new but
directories on the way. -/
structure Unharmed (before after : Store) (directory : String) (units : List SourceUnit) :
    Prop where
  target : ∀ unit ∈ units, ∀ path,
    after.resolve (Staged.ofUnit directory unit).target = .ok path →
      after.get? path = before.get? path ∨ before.MadeOnWay after directory path
  elsewhere : ∀ path, ¬after.IsTemporary directory units path →
    after.get? path = before.get? path ∨ before.MadeOnWay after directory path
  temporary : ∀ path, after.IsTemporary directory units path → before.get? path = none →
    after.get? path = none ∨ before.MadeOnWay after directory path

theorem target_not_isTemporary (separate : SourceUnit.Separate units) {unit : SourceUnit}
    (member : unit ∈ units)
    (resolved : store.resolve (Staged.ofUnit directory unit).target = .ok path) :
    ¬store.IsTemporary directory units path := by
  have nameable := separate.nameable unit member
  have known : ".rs" ∈ SourceUnit.suffixes := by simp [SourceUnit.suffixes]
  obtain ⟨-, -, here, reached, -, rfl⟩ := (resolve_joinPath_iff (nameable.isName known)).mp resolved
  have clash : ∀ other ∈ units, ∀ suffix ∈ SourceUnit.suffixes, suffix ≠ ".rs" →
      store.resolve (joinPath directory (other.module ++ suffix)) ≠
        .ok (here ++ [unit.module ++ ".rs"]) := by
    intro other inUnits suffix known' different resolvedToo
    have nameableToo := separate.nameable other inUnits
    obtain ⟨-, -, there, reachedToo, -, same⟩ :=
      (resolve_joinPath_iff (nameableToo.isName known')).mp resolvedToo
    obtain rfl : here = there := Except.ok.inj (reached.symm.trans reachedToo)
    have names : unit.module ++ ".rs" = other.module ++ suffix := by simpa using same
    exact different (nameable.eq_of_append_eq nameableToo known known' names).2.symm
  rintro ⟨other, inUnits, staged | backup⟩
  · exact clash other inUnits ".tmp.rs" (by simp [SourceUnit.suffixes]) (by decide) staged
  · exact clash other inUnits ".old.rs" (by simp [SourceUnit.suffixes]) (by decide) backup

/-- Only temporary paths differ, and only in that nothing is there any more. -/
structure Cleared (before after : Store) (directory : String) (units : List SourceUnit) :
    Prop where
  home : after.home = before.home
  directories : ∀ path, before.get? path = some .directory → after.get? path = some .directory
  each : ∀ path, after.get? path = before.get? path ∨
    after.get? path = none ∧ after.IsTemporary directory units path

theorem Cleared.unharmed (separate : SourceUnit.Separate units)
    (cleared : Cleared middle after directory units)
    (grown : Grown (before.base directory) (pathSteps directory) before middle) :
    before.Unharmed after directory units := by
  have fromGrown : ∀ path, after.get? path = middle.get? path →
      after.get? path = before.get? path ∨ before.MadeOnWay after directory path :=
    fun path kept => grown.each_of_same cleared.directories kept
  have elsewhere : ∀ path, ¬after.IsTemporary directory units path →
      after.get? path = before.get? path ∨ before.MadeOnWay after directory path := by
    intro path other
    rcases cleared.each path with kept | ⟨-, temporary⟩
    · exact fromGrown path kept
    · exact absurd temporary other
  refine ⟨fun unit member path resolved => ?_, elsewhere, fun path _ absent => ?_⟩
  · exact elsewhere path (target_not_isTemporary separate member resolved)
  · rcases cleared.each path with kept | ⟨gone, -⟩
    · exact (fromGrown path kept).imp_left fun same => same.trans absent
    · exact .inl gone

theorem Cleared.refl (store : Store) (directory : String) (units : List SourceUnit) :
    Cleared store store directory units :=
  ⟨rfl, fun _ => id, fun _ => .inl rfl⟩

/-- A text that led somewhere leads there still. -/
theorem Cleared.resolve {text : String} (cleared : Cleared middle after directory units)
    (grown : Grown (before.base directory) (pathSteps directory) before middle)
    (resolved : before.resolve text = .ok path) : after.resolve text = .ok path :=
  resolve_mono (cleared.home.trans grown.home)
    (fun path found => cleared.directories path (grown.directory found)) resolved

/-- The path that a text leads to, if it leads to one. -/
def place (store : Store) (text : String) : Path :=
  match store.resolve text with
  | .ok path => path
  | .error _ => []

theorem places_place (store : Store) : Places store.place store := by
  intro text path resolved
  rw [place, resolved]

end Store

namespace Work

variable {work result : Work} {directory : String} {units : List SourceUnit}
  {format? : Option FormatStep} {failure : Failure} {entries : List Staged}
  {place : String → Path} {before after : Store}

/-- When staging fails and what has been staged is removed, nothing else has changed. -/
theorem discarded_of_stage_error (separate : SourceUnit.Separate units)
    (confined : ∀ format ∈ format?, format.Confined)
    (run : stage directory format? work units = (result, entries, some failure)) :
    ∃ front ⊆ units, ∃ after, result.discard entries = { result with store := after } ∧
      ChangedAt ((front.map (Staged.ofUnit directory)).map fun entry =>
        work.store.place entry.staged) work.store after ∧
      ∀ unit ∈ front,
        after.Leads (Staged.ofUnit directory unit).staged
          (work.store.place (Staged.ofUnit directory unit).staged) ∧
        after.get? (work.store.place (Staged.ofUnit directory unit).staged) = none := by
  have places := places_place work.store
  have staged := stage_spec directory places separate confined
  rw [run] at staged
  obtain ⟨count, rfl⟩ : ∃ count, entries = (units.take count).map (Staged.ofUnit directory) :=
    ⟨entries.length, by rw [List.map_take]; exact List.prefix_iff_eq_take.mp staged.front⟩
  have taken : SourceUnit.Separate (units.take count) := by
    have all := separate
    rw [← List.take_append_drop count units] at all
    exact all.append_left
  have apart := Staged.apart_ofUnits places taken
    (List.forall_mem_map.mp staged.leads)
  obtain ⟨store, discarded, changed, gone⟩ := discard_spec result
    (fun entry member => staged.changed.leads (staged.leads entry member)) staged.occupied
    apart.staged
  have total := staged.changed.trans changed
  refine ⟨units.take count, List.take_subset count units, store, discarded, total,
    fun unit member => ?_⟩
  have among : Staged.ofUnit directory unit ∈ (units.take count).map (Staged.ofUnit directory) :=
    List.mem_map_of_mem member
  exact ⟨total.leads (staged.leads _ among), gone _ among⟩

theorem cleared_of_stage_error (separate : SourceUnit.Separate units)
    (confined : ∀ format ∈ format?, format.Confined)
    (run : stage directory format? work units = (result, entries, some failure)) :
    Cleared work.store (result.discard entries).store directory units := by
  obtain ⟨front, among, after, same, changed, gone⟩ :=
    discarded_of_stage_error separate confined run
  rw [same]
  refine ⟨changed.home, fun path => (changed.directory path).mpr, fun path => ?_⟩
  by_cases inside : path ∈ (front.map (Staged.ofUnit directory)).map
      fun entry => work.store.place entry.staged
  · obtain ⟨entry, member, rfl⟩ := List.mem_map.mp inside
    obtain ⟨unit, inFront, rfl⟩ := List.mem_map.mp member
    obtain ⟨leads, nothing⟩ := gone unit inFront
    exact .inr ⟨nothing, unit, among inFront, .inl leads.resolve⟩
  · exact .inl (changed.same path inside)

theorem ready_of_stagedFrom (places : Places place before) (separate : SourceUnit.Separate units)
    (inPlace : before.DeviceInPlace) {staged : Work}
    (stagedFrom : StagedFrom place before (units.map (Staged.ofUnit directory))
      (staged, units.map (Staged.ofUnit directory), none)) :
    ∀ entry ∈ units.map (Staged.ofUnit directory), Ready place staged.store entry := by
  intro entry member
  obtain ⟨target, -⟩ :=
    (Staged.apart_ofUnits places separate (List.forall_mem_map.mp stagedFrom.leads)).notMem_staged
      member
  have leads := stagedFrom.leads entry member
  have occupied := stagedFrom.occupied entry member
  obtain ⟨unit, inUnits, rfl⟩ := List.mem_map.mp member
  obtain ⟨here, -, paths, reached⟩ := Staged.paths_ofUnit places (separate.nameable unit inUnits)
    leads
  refine ⟨reached.changed stagedFrom.changed, occupied, fun device => ?_⟩
  rw [stagedFrom.changed.same _ target, (List.cons.inj (List.cons.inj paths).2).1] at device
  exact inPlace.ne_null here (by simp [String.toList_append]) device

/-- When a unit is undone, its three paths differ only where something temporary is gone. -/
theorem each_of_undone {unit : SourceUnit} (member : unit ∈ units)
    (reached : (Staged.ofUnit directory unit).Reached place after)
    (undone : (Staged.ofUnit directory unit).Undone place before after) :
    ∀ path ∈ (Staged.ofUnit directory unit).paths place, after.get? path = before.get? path ∨
      after.get? path = none ∧ after.IsTemporary directory units path := by
  simp only [Staged.paths, List.forall_mem_cons, List.not_mem_nil, false_implies, implies_true,
    and_true]
  refine ⟨.inr ⟨undone.staged, unit, member, .inl reached.staged.resolve⟩, .inl undone.target, ?_⟩
  rcases undone.backup with ⟨-, gone⟩ | kept
  · exact .inr ⟨gone, unit, member, .inr reached.backup.resolve⟩
  · exact .inl kept

/-- When moving into place fails, every unit is undone and nothing else has changed. -/
theorem undone_of_commit_error (separate : SourceUnit.Separate units)
    (confined : ∀ format ∈ format?, format.Confined) (inPlace : work.store.DeviceInPlace)
    {staged : Work} (run : stage directory format? work units = (staged, entries, none))
    (refused : commit [] staged entries = (result, .error failure)) :
    ChangedAt ((units.map (Staged.ofUnit directory)).flatMap (Staged.paths work.store.place))
        work.store result.store ∧
      ∀ unit ∈ units, (Staged.ofUnit directory unit).Reached work.store.place result.store ∧
        (Staged.ofUnit directory unit).Undone work.store.place work.store result.store := by
  have places := places_place work.store
  have stagedFrom := stage_spec directory places separate confined
  rw [run] at stagedFrom
  obtain rfl : entries = units.map (Staged.ofUnit directory) := stagedFrom.complete rfl
  have apart := Staged.apart_ofUnits places separate (List.forall_mem_map.mp stagedFrom.leads)
  have ready := ready_of_stagedFrom places separate inPlace stagedFrom
  obtain ⟨store, rfl, changed, undone⟩ := commit_error (Underway.start apart ready) refused
  refine ⟨(stagedFrom.changed.mono Staged.staged_subset_paths).trans changed,
    fun unit inUnits => ?_⟩
  have member : Staged.ofUnit directory unit ∈ units.map (Staged.ofUnit directory) :=
    List.mem_map_of_mem inUnits
  obtain ⟨target, backup⟩ := apart.notMem_staged member
  exact ⟨(ready _ member).reached.changed changed,
    (undone _ member).rebase stagedFrom.changed target backup⟩

theorem cleared_of_commit_error (separate : SourceUnit.Separate units)
    (confined : ∀ format ∈ format?, format.Confined) (inPlace : work.store.DeviceInPlace)
    {staged : Work} (run : stage directory format? work units = (staged, entries, none))
    (refused : commit [] staged entries = (result, .error failure)) :
    Cleared work.store result.store directory units := by
  obtain ⟨changed, undone⟩ := undone_of_commit_error separate confined inPlace run refused
  refine ⟨changed.home, fun path => (changed.directory path).mpr, fun path => ?_⟩
  by_cases inside : path ∈ (units.map (Staged.ofUnit directory)).flatMap
      (Staged.paths work.store.place)
  · obtain ⟨entry, member, among⟩ := List.mem_flatMap.mp inside
    obtain ⟨unit, inUnits, rfl⟩ := List.mem_map.mp member
    obtain ⟨reached, undone⟩ := undone unit inUnits
    exact each_of_undone inUnits reached undone path among
  · exact .inl (changed.same path inside)

/-- When writing units fails, directories have been made on the way, and what was done since then is
undone. -/
theorem cleared_of_writeUnits_error (separate : SourceUnit.Separate units)
    (confined : ∀ format ∈ format?, format.Confined) (inPlace : work.store.DeviceInPlace)
    (failed : work.writeUnits directory units format? = (result, .error failure)) :
    ∃ middle, Grown (work.store.base directory) (pathSteps directory) work.store middle ∧
      Cleared middle result.store directory units := by
  cases writes_of_writeUnits failed with
  | notMade made => exact ⟨_, grown_of_makeDirectories made, Cleared.refl _ directory units⟩
  | notStaged made run =>
    exact ⟨_, grown_of_makeDirectories made, cleared_of_stage_error separate confined run⟩
  | notMoved made run refused =>
    have grown := grown_of_makeDirectories made
    exact ⟨_, grown, cleared_of_commit_error separate confined (inPlace.grown grown) run refused⟩

/-- When writing units fails, nothing but directories on the way is new, and nothing but what bore
a temporary name is gone. -/
theorem writeUnits_error_unharmed (separate : SourceUnit.Separate units)
    (confined : ∀ format ∈ format?, format.Confined) (inPlace : work.store.DeviceInPlace)
    (failed : work.writeUnits directory units format? = (result, .error failure)) :
    work.store.Unharmed result.store directory units := by
  obtain ⟨middle, grown, cleared⟩ :=
    cleared_of_writeUnits_error separate confined inPlace failed
  exact cleared.unharmed separate grown

/-- The second of two units finds a directory in its place, after the first is in its own and both
are formatted. -/
theorem writeUnits_onto_directory_unharmed :
    let store : Store :=
      ((Store.empty.put ["tmp", "work", "out"] .directory).put
        ["tmp", "work", "out", "expr.rs"] (.file "enum Expr {}".toUTF8)).put
        ["tmp", "work", "out", "stmt.rs"] .directory
    let units : List SourceUnit := [⟨"Expr", "expr", "enum Expr { }"⟩, ⟨"Stmt", "stmt", ""⟩]
    ∃ result, (start store).writeUnits "out" units (some (.fill "// formatted".toUTF8)) =
        (result, .error (.sink "out/stmt.rs" .isDirectory)) ∧
      store.Unharmed result.store "out" units := by
  intro store units
  have failed : ((start store).writeUnits "out" units (some (.fill "// formatted".toUTF8))).2 =
      .error (.sink "out/stmt.rs" .isDirectory) := by
    decide +kernel
  have separate : SourceUnit.Separate units := by
    refine ⟨fun unit member => ?_, by decide⟩
    simp only [units, List.mem_cons, List.not_mem_nil, or_false] at member
    rcases member with rfl | rfl <;> exact ⟨by decide, by decide, by decide⟩
  have inPlace : store.DeviceInPlace := by
    repeat' refine Store.DeviceInPlace.put ?_ (by simp) (by simp)
    exact Store.deviceInPlace_empty
  have confined : ∀ format ∈ some (FormatStep.fill "// formatted".toUTF8), format.Confined := by
    rintro format ⟨⟩
    exact FormatStep.fill_confined _
  rcases run : (start store).writeUnits "out" units (some (.fill "// formatted".toUTF8))
    with ⟨result, answer⟩
  rw [run] at failed
  obtain rfl : answer = .error (.sink "out/stmt.rs" .isDirectory) := failed
  exact ⟨result, rfl, writeUnits_error_unharmed separate confined inPlace run⟩

/-- A directory that is made on the way may be where a unit belongs, so the place of a unit in which
nothing was is not always free again. -/
theorem target_made_on_way :
    ¬∀ (store : Store) (directory : String) (units : List SourceUnit)
      (format? : Option FormatStep) (result : Work) (failure : Failure),
      SourceUnit.Separate units → (∀ format ∈ format?, format.Confined) → store.DeviceInPlace →
      (start store).writeUnits directory units format? = (result, .error failure) →
      ∀ unit ∈ units, ∀ path,
        result.store.resolve (Staged.ofUnit directory unit).target = .ok path →
        result.store.get? path = store.get? path := by
  intro unchanged
  let unit : SourceUnit := ⟨"Expr", "expr", "enum Expr { }"⟩
  have separate : SourceUnit.Separate [unit] := by
    refine ⟨fun other member => ?_, by decide⟩
    obtain rfl := List.mem_singleton.mp member
    exact ⟨by decide, by decide, by decide⟩
  have failed : ((start .empty).writeUnits "expr.rs/.." [unit] none).2 =
      .error (.sink "expr.rs/../expr.rs" .isDirectory) := by
    decide +kernel
  have resolved : ((start .empty).writeUnits "expr.rs/.." [unit] none).1.store.resolve
      (Staged.ofUnit "expr.rs/.." unit).target = .ok ["tmp", "work", "expr.rs"] := by
    decide +kernel
  have made : (((start .empty).writeUnits "expr.rs/.." [unit] none).1.store.get?
      ["tmp", "work", "expr.rs"]).isSome = true := by
    decide +kernel
  have absent : Store.empty.get? ["tmp", "work", "expr.rs"] = none := by
    rfl
  rcases run : (start .empty).writeUnits "expr.rs/.." [unit] none with ⟨result, answer⟩
  rw [run] at failed resolved made
  obtain rfl : answer = .error (.sink "expr.rs/../expr.rs" .isDirectory) := failed
  have same := unchanged .empty "expr.rs/.." [unit] none result _ separate (by simp)
    Store.deviceInPlace_empty run unit (List.mem_singleton.mpr rfl) _ resolved
  rw [same, absent] at made
  exact absurd made (by decide)

end Work

end TreeSchema
