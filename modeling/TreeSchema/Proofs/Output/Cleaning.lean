import TreeSchema.Proofs.Output.Installation

/-!
Cleaning up never fails. What is to be removed or put back is where cleaning up looks for it,
whatever else stands in the directory, so no run reports a warning.
-/

namespace TreeSchema.Work

open Store Staged

variable {place : String → Path} {work : Work} {entry : Staged} {entries : List Staged}
  {moved : List (Staged × Bool)} {directory : String} {units : List SourceUnit}
  {format? : Option FormatStep}

/-! ### Warnings -/

/-- What has been reported since is no warning. -/
def Quiet (before after : Work) : Prop :=
  ∃ events, after.log = before.log ++ events ∧ ∀ event ∈ events, event.level ≠ .warning

theorem quiet_withStore (work : Work) (store : Store) : work.Quiet { work with store } :=
  ⟨[], by simp, by simp⟩

theorem quiet_report_iff {event : Event} :
    work.Quiet (work.report event) ↔ event.level ≠ .warning := by
  constructor
  · rintro ⟨events, log, mild⟩
    obtain rfl : [event] = events := List.append_cancel_left log
    exact mild event List.mem_cons_self
  · intro mild
    exact ⟨[event], rfl, by simpa using mild⟩

theorem Quiet.trans {before middle after : Work} (first : before.Quiet middle)
    (second : middle.Quiet after) : before.Quiet after := by
  obtain ⟨events, log, mild⟩ := first
  obtain ⟨others, logToo, mildToo⟩ := second
  refine ⟨events ++ others, ?_, List.forall_mem_append.mpr ⟨mild, mildToo⟩⟩
  rw [logToo, log, List.append_assoc]

theorem quiet_stageEntry (work : Work) (format? : Option FormatStep) (entry : Staged)
    (source : String) : work.Quiet (stageEntry format? work entry source).1 := by
  unfold stageEntry
  split
  next => exact quiet_withStore work work.store
  next store written =>
    split
    next => exact quiet_withStore work store
    next format =>
      split
      next after failure ran => exact quiet_withStore work after
      next after ran => exact (quiet_withStore work after).trans (quiet_report_iff.mpr nofun)

theorem quiet_stage (work : Work) (directory : String) (format? : Option FormatStep)
    (units : List SourceUnit) : work.Quiet (stage directory format? work units).1 := by
  induction units generalizing work with
  | nil => exact quiet_withStore work work.store
  | cons unit rest ih =>
    have here := quiet_stageEntry work format? (Staged.ofUnit directory unit) unit.source
    unfold stage andThen
    split
    next middle entries failure step =>
      rw [step] at here
      exact here
    next middle entries step =>
      rw [step] at here
      exact here.trans (ih middle)

/-! ### What cleaning up finds -/

/-- Something is in the place of the entry, and where the file that was there has been moved to. -/
structure Standing (place : String → Path) (now : Store) (move : Staged × Bool) : Prop where
  target : now.Occupied (place move.1.target)
  backup : move.2 = true → now.Occupied (place move.1.backup)

theorem framed_standing : Framed place (Standing place) := by
  intro move touched before after changed outside standing
  obtain ⟨-, target, backup⟩ := same_of_outside changed outside
  exact ⟨standing.target.of_same target, fun aside => (standing.backup aside).of_same backup⟩

theorem standing_of_moved {written now : Store} {aside : Bool}
    (moved : entry.Moved place written now aside) : Standing place now (entry, aside) := by
  refine ⟨moved.occupied, fun isAside => ?_⟩
  obtain ⟨kept, content, file⟩ := moved.ofAside isAside
  exact ⟨.file content, kept.trans file, by simp⟩

theorem handles_rollBack : Handles place (fun work move => work.rollBack [move]) (fun _ => [])
    (Standing place) fun _ _ => True := by
  rintro work ⟨entry, aside⟩ reached - standing
  rw [List.append_nil]
  cases aside with
  | true =>
    obtain ⟨there, found, file⟩ := standing.backup rfl
    obtain ⟨store, renamed, changed, -⟩ := rename_spec reached.backup reached.target found file
      standing.target.ne_directory
    exact ⟨store, attempt_eq renamed, changed.mono (by simp [Staged.paths]), trivial⟩
  | false =>
    obtain ⟨store, removed, changed, -⟩ := remove_spec reached.target standing.target
    exact ⟨store, attempt_eq removed, changed.mono (by simp [Staged.paths]), trivial⟩

theorem handles_finish : Handles place (fun work move => work.finish [move])
    (fun move => [.wrote move.1.target]) (Standing place) fun _ _ => True := by
  rintro work ⟨entry, aside⟩ reached - standing
  cases aside with
  | false => exact ⟨work.store, rfl, ChangedAt.refl _ _, trivial⟩
  | true =>
    obtain ⟨store, removed, changed, -⟩ := remove_spec reached.backup (standing.backup rfl)
    refine ⟨store, ?_, changed.mono (by simp [Staged.paths]), trivial⟩
    simp only [finish, List.foldl_cons, List.foldl_nil, if_true, attempt_eq removed, report]

theorem quiet_finish (work : Work) (apart : Apart place (moved.map (·.1)))
    (reached : ∀ move ∈ moved, move.1.Reached place work.store)
    (standing : ∀ move ∈ moved, Standing place work.store move) :
    work.Quiet (work.finish moved) := by
  obtain ⟨store, result, -⟩ := handles_finish.foldl framed_standing (fun _ _ _ _ _ _ => id) work
    apart reached standing
  have finished : work.finish moved = ⟨store, work.log ++ moved.flatMap fun move =>
      [.wrote move.1.target]⟩ := result
  rw [finished]
  refine ⟨_, rfl, fun event among => ?_⟩
  obtain ⟨move, -, wrote⟩ := List.mem_flatMap.mp among
  rw [List.mem_singleton.mp wrote]
  intro warns
  cases warns

/-! ### Moving into place -/

/-- Replacing succeeds or changes nothing, whatever is in the place. -/
theorem replace_standing (reached : entry.Reached place work.store)
    (nodup : (entry.paths place).Nodup) (occupied : work.store.Occupied (place entry.staged)) :
    (∃ store aside, work.replace entry = ({ work with store }, .ok aside) ∧
      ChangedAt (entry.paths place) work.store store ∧ Standing place store (entry, aside)) ∨
    ∃ failure, work.replace entry = (work, .error failure) := by
  by_cases device : work.store.get? (place entry.target) = some .null
  · -- a device is no file, so it is not moved aside, and the new file takes its place
    obtain ⟨there, found, file⟩ := occupied
    obtain ⟨store, renamed, changed, left⟩ := rename_spec reached.staged reached.target found file
      (by simp [device])
    have taken : store.get? (place entry.target) = some there := by rw [left, if_pos rfl]
    refine .inl ⟨store, false, ?_, changed.mono (by simp [Staged.paths]), ⟨there, taken, file⟩,
      by simp⟩
    rw [replace, if_neg (by simp [reached.target.isFile, device]), renamed]
  · rcases replace_spec ⟨reached, occupied, device⟩ nodup with
      ⟨store, aside, step, changed, moved⟩ | refused
    · exact .inl ⟨store, aside, step, changed, standing_of_moved moved⟩
    · exact .inr refused

/-- The entries that are moved stand in their places, and the others are staged. -/
structure Cleanable (place : String → Path) (moved : List (Staged × Bool)) (entries : List Staged)
    (now : Store) : Prop where
  apart : Apart place (moved.map (·.1) ++ entries)
  reached : ∀ entry ∈ moved.map (·.1) ++ entries, entry.Reached place now
  standing : ∀ move ∈ moved, Standing place now move
  occupied : ∀ entry ∈ entries, now.Occupied (place entry.staged)

theorem Cleanable.replace (cleanable : Cleanable place moved (entry :: entries) work.store) :
    (∃ store aside, work.replace entry = ({ work with store }, .ok aside) ∧
      Cleanable place ((entry, aside) :: moved) entries store) ∨
    ∃ failure, work.replace entry = (work, .error failure) := by
  obtain ⟨apart, reached, standing, occupied⟩ := cleanable
  obtain ⟨-, apartEntries, separate⟩ := apart_append_iff.mp apart
  obtain ⟨nodup, -, separateRest⟩ := apart_cons_iff.mp apartEntries
  obtain ⟨occupiedHere, occupiedRest⟩ := List.forall_mem_cons.mp occupied
  rcases replace_standing (reached entry (by simp)) nodup occupiedHere with
    ⟨store, aside, step, changed, standingHere⟩ | refused
  · have order : (moved.map (·.1) ++ entry :: entries).Perm
        (((entry, aside) :: moved).map (·.1) ++ entries) := List.perm_middle
    refine .inl ⟨store, aside, step, apart.perm order, fun other member => ?_,
      List.forall_mem_cons.mpr ⟨standingHere, fun move inMoved => ?_⟩, fun other inRest => ?_⟩
    · exact (reached other (order.mem_iff.mpr member)).changed changed
    · exact framed_standing move _ _ _ changed
        (separate move.1 (List.mem_map_of_mem inMoved) entry (by simp)) (standing move inMoved)
    · refine (occupiedRest other inRest).of_same (changed.same _ fun mine => ?_)
      exact separateRest other inRest _ mine (staged_mem_paths place other)
  · exact .inr refused

theorem Cleanable.undo (cleanable : Cleanable place moved entries work.store) :
    ∃ store, (work.rollBack moved).discard entries = { work with store } := by
  obtain ⟨apart, reached, standing, occupied⟩ := cleanable
  obtain ⟨apartMoved, apartEntries, separate⟩ := apart_append_iff.mp apart
  obtain ⟨reachedMoved, reachedEntries⟩ := List.forall_mem_append.mp reached
  obtain ⟨middle, rolledBack, changed, -⟩ := handles_rollBack.rollBack framed_standing
    (fun _ _ _ _ _ _ => id) work apartMoved (List.forall_mem_map.mp reachedMoved) standing
  have staged : ∀ entry ∈ entries, middle.Occupied (place entry.staged) := by
    intro entry inEntries
    refine (occupied entry inEntries).of_same (changed.same _ ?_)
    refine notMem_flatMap_paths (fun other inMoved path mine theirs => ?_) _
      (staged_mem_paths place entry)
    exact separate other inMoved entry inEntries path theirs mine
  obtain ⟨store, discarded, -⟩ := discard_spec { work with store := middle }
    (fun entry inEntries => ((reachedEntries entry inEntries).changed changed).staged) staged
    apartEntries.staged
  exact ⟨store, by rw [rolledBack, discarded]⟩

/-- Moving into place reports nothing, and what it has moved can be finished. -/
theorem Cleanable.commit (cleanable : Cleanable place moved entries work.store) :
    ∃ store, (commit moved work entries).1 = { work with store } ∧
      ∀ moves, (commit moved work entries).2 = .ok moves →
        Cleanable place moves.reverse [] store := by
  induction entries generalizing moved work with
  | nil =>
    refine ⟨work.store, rfl, fun moves done => ?_⟩
    obtain rfl : moved.reverse = moves := Except.ok.inj done
    rwa [List.reverse_reverse]
  | cons entry rest ih =>
    rw [Work.commit]
    rcases cleanable.replace with ⟨store, aside, step, next⟩ | ⟨failure, step⟩
    · rw [step]
      exact ih next
    · rw [step]
      obtain ⟨store, undone⟩ := cleanable.undo
      refine ⟨store, undone, ?_⟩
      intro moves done
      cases done

theorem Cleanable.quiet_finish (cleanable : Cleanable place moved.reverse [] work.store) :
    work.Quiet (work.finish moved) := by
  obtain ⟨apart, reached, standing, -⟩ := cleanable
  rw [List.append_nil, List.map_reverse] at apart reached
  refine Work.quiet_finish work (apart.perm (List.reverse_perm _)) (fun move member => ?_)
    (fun move member => standing move (List.mem_reverse.mpr member))
  exact reached move.1 (List.mem_reverse.mpr (List.mem_map_of_mem member))

/-- What has been staged can be moved into place or removed. -/
theorem cleanable_of_stage (separate : SourceUnit.Separate units)
    (confined : ∀ format ∈ format?, format.Confined) {staged : Work}
    (run : stage directory format? work units = (staged, entries, none)) :
    Cleanable work.store.place [] entries staged.store := by
  have places := places_place work.store
  have stagedFrom := stage_spec directory places separate confined
  rw [run] at stagedFrom
  obtain rfl : entries = units.map (Staged.ofUnit directory) := stagedFrom.complete rfl
  have leads := stagedFrom.leads
  refine ⟨Staged.apart_ofUnits places separate (List.forall_mem_map.mp leads), ?_, nofun,
    stagedFrom.occupied⟩
  intro entry member
  obtain ⟨unit, inUnits, rfl⟩ := List.mem_map.mp member
  obtain ⟨-, -, -, reached⟩ := Staged.paths_ofUnit places (separate.nameable unit inUnits)
    (leads _ member)
  exact reached.changed stagedFrom.changed

/-- Whether units are written or not, and wherever writing them stops, every call for cleaning up
succeeds. -/
theorem writeUnits_quiet {result : Work} {answer : Except Failure (List String)}
    (separate : SourceUnit.Separate units) (confined : ∀ format ∈ format?, format.Confined)
    (run : work.writeUnits directory units format? = (result, answer)) : work.Quiet result := by
  cases writes_of_writeUnits run with
  | notMade made => exact quiet_withStore work _
  | @notStaged store staged entries failure made stopped =>
    obtain ⟨-, -, after, discarded, -⟩ := discarded_of_stage_error separate confined stopped
    have quiet := quiet_stage { work with store } directory format? units
    rw [stopped] at quiet
    rw [discarded]
    exact quiet.trans (quiet_withStore staged after)
  | @notMoved store staged undone entries failure made all refused =>
    obtain ⟨after, same, -⟩ := (cleanable_of_stage separate confined all).commit
    have quiet := quiet_stage { work with store } directory format? units
    rw [all] at quiet
    rw [refused] at same
    subst same
    exact quiet.trans (quiet_withStore staged after)
  | @moved store staged moved entries moves made all committed =>
    obtain ⟨after, same, finishes⟩ := (cleanable_of_stage separate confined all).commit
    have quiet := quiet_stage { work with store } directory format? units
    rw [all] at quiet
    rw [committed] at same finishes
    subst same
    exact (quiet.trans (quiet_withStore staged after)).trans (finishes moves rfl).quiet_finish

/-- The third of three units finds a directory in its place. The file that the first has taken the
place of is put back, the second is removed, and the third is still as it was staged. -/
theorem writeUnits_onto_directory_quiet :
    let store : Store :=
      ((Store.empty.put ["tmp", "work", "out"] .directory).put
        ["tmp", "work", "out", "expr.rs"] (.file "enum Expr {}".toUTF8)).put
        ["tmp", "work", "out", "stmt.rs"] .directory
    let units : List SourceUnit :=
      [⟨"Expr", "expr", "enum Expr { }"⟩, ⟨"Item", "item", "enum Item { }"⟩, ⟨"Stmt", "stmt", ""⟩]
    ∃ result, (start store).writeUnits "out" units (some (.fill "// formatted".toUTF8)) =
        (result, .error (.sink "out/stmt.rs" .isDirectory)) ∧
      result.log = [.formatted "out/expr.tmp.rs", .formatted "out/item.tmp.rs",
        .formatted "out/stmt.tmp.rs"] ∧
      (start store).Quiet result := by
  intro store units
  have failed : ((start store).writeUnits "out" units (some (.fill "// formatted".toUTF8))).2 =
      .error (.sink "out/stmt.rs" .isDirectory) := by
    decide +kernel
  have log : ((start store).writeUnits "out" units (some (.fill "// formatted".toUTF8))).1.log =
      [.formatted "out/expr.tmp.rs", .formatted "out/item.tmp.rs",
        .formatted "out/stmt.tmp.rs"] := by
    decide +kernel
  have separate : SourceUnit.Separate units := by
    refine ⟨fun unit member => ?_, by decide⟩
    simp only [units, List.mem_cons, List.not_mem_nil, or_false] at member
    rcases member with rfl | rfl | rfl <;> exact ⟨by decide, by decide, by decide⟩
  have confined : ∀ format ∈ some (FormatStep.fill "// formatted".toUTF8), format.Confined := by
    rintro format ⟨⟩
    exact FormatStep.fill_confined _
  rcases run : (start store).writeUnits "out" units (some (.fill "// formatted".toUTF8))
    with ⟨result, answer⟩
  rw [run] at failed log
  obtain rfl : answer = .error (.sink "out/stmt.rs" .isDirectory) := failed
  exact ⟨result, rfl, log, writeUnits_quiet separate confined run⟩

end TreeSchema.Work
