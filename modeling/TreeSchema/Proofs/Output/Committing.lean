import TreeSchema.Proofs.Output.Undoing

/-!
Moving staged files into place. The loop keeps apart the entries that are moved, which it can undo,
and the ones that are still as they were staged; when one is refused, every entry ends undone, and
else every entry ends moved.
-/

namespace TreeSchema.Work

open Store Staged

variable {place : String → Path} {written : Store} {work : Work} {entry : Staged}
  {entries : List Staged} {moved : List (Staged × Bool)}

/-- What replacing needs to find: the staged file is there, and the place is taken by nothing but a
file or a directory. -/
structure Ready (place : String → Path) (store : Store) (entry : Staged) : Prop where
  reached : entry.Reached place store
  occupied : store.Occupied (place entry.staged)
  noDevice : store.get? (place entry.target) ≠ some .null

theorem Ready.frame {touched : List Path} {before after : Store} (ready : Ready place before entry)
    (changed : ChangedAt touched before after)
    (outside : ∀ path ∈ entry.paths place, path ∉ touched) : Ready place after entry := by
  obtain ⟨staged, target, -⟩ := same_of_outside changed outside
  exact ⟨ready.reached.changed changed, ready.occupied.of_same staged,
    fun device => ready.noDevice (target.symm.trans device)⟩

theorem replace_aside (ready : Ready place work.store entry) (nodup : (entry.paths place).Nodup)
    {content : ByteArray} (file : work.store.get? (place entry.target) = some (.file content))
    (free : work.store.get? (place entry.backup) ≠ some .directory) :
    ∃ store, work.replace entry = ({ work with store }, .ok true) ∧
      ChangedAt (entry.paths place) work.store store ∧
      entry.Moved place work.store store true := by
  obtain ⟨stagedTarget, stagedBackup, targetBackup⟩ := ne_of_paths_nodup nodup
  obtain ⟨reached, ⟨there, found, notDirectory⟩, -⟩ := ready
  obtain ⟨middle, first, changed, left⟩ := rename_spec reached.target reached.backup file
    (by simp) free
  have foundNext : middle.get? (place entry.staged) = some there := by
    rw [left, if_neg stagedBackup, if_neg stagedTarget, found]
  have freeNext : middle.get? (place entry.target) = none := by
    rw [left, if_neg targetBackup, if_pos rfl]
  obtain ⟨store, second, changedNext, leftNext⟩ := rename_spec (changed.leads reached.staged)
    (changed.leads reached.target) foundNext notDirectory (by simp [freeNext])
  refine ⟨store, ?_, ?_, ?_, ⟨there, ?_, notDirectory⟩, ?_, fun _ => ⟨?_, content, file⟩, by simp⟩
  · rw [replace, if_pos (reached.target.isFile.mpr ⟨content, file⟩), first]
    simp only [second]
  · exact (changed.mono (by simp [Staged.paths])).trans
      (changedNext.mono (by simp [Staged.paths]))
  · rw [leftNext, if_neg stagedTarget, if_pos rfl]
  · rw [leftNext, if_pos rfl]
  · rw [leftNext, if_pos rfl, found]
  · rw [leftNext, if_neg targetBackup.symm, if_neg stagedBackup.symm, left, if_pos rfl, file]

theorem replace_fresh (ready : Ready place work.store entry) (nodup : (entry.paths place).Nodup)
    (absent : work.store.get? (place entry.target) = none) :
    ∃ store, work.replace entry = ({ work with store }, .ok false) ∧
      ChangedAt (entry.paths place) work.store store ∧
      entry.Moved place work.store store false := by
  obtain ⟨stagedTarget, stagedBackup, targetBackup⟩ := ne_of_paths_nodup nodup
  obtain ⟨reached, ⟨there, found, notDirectory⟩, -⟩ := ready
  obtain ⟨store, step, changed, left⟩ := rename_spec reached.staged reached.target found
    notDirectory (by simp [absent])
  refine ⟨store, ?_, changed.mono (by simp [Staged.paths]), ?_, ⟨there, ?_, notDirectory⟩, ?_,
    by simp, fun _ => ⟨?_, absent⟩⟩
  · rw [replace, if_neg (by simp [reached.target.isFile, absent]), step]
  · rw [left, if_neg stagedTarget, if_pos rfl]
  · rw [left, if_pos rfl]
  · rw [left, if_pos rfl, found]
  · rw [left, if_neg targetBackup.symm, if_neg stagedBackup.symm]

/-- Replacing fails only onto a directory or past one, and changes nothing then. -/
theorem replace_spec (ready : Ready place work.store entry) (nodup : (entry.paths place).Nodup) :
    (∃ store aside, work.replace entry = ({ work with store }, .ok aside) ∧
      ChangedAt (entry.paths place) work.store store ∧ entry.Moved place work.store store aside) ∨
    ∃ failure, work.replace entry = (work, .error failure) := by
  have reached := ready.reached
  cases found : work.store.get? (place entry.target) with
  | none =>
    obtain ⟨store, result⟩ := replace_fresh ready nodup found
    exact .inl ⟨store, false, result⟩
  | some there =>
    cases there with
    | null => exact absurd found ready.noDevice
    | file content =>
      by_cases taken : work.store.get? (place entry.backup) = some .directory
      · have step := rename_onto_directory reached.target reached.backup
          ⟨.file content, found, by simp⟩ taken
        exact .inr ⟨_, by
          rw [replace, if_pos (reached.target.isFile.mpr ⟨content, found⟩), step]⟩
      · obtain ⟨store, result⟩ := replace_aside ready nodup found taken
        exact .inl ⟨store, true, result⟩
    | directory =>
      have step := rename_onto_directory reached.staged reached.target ready.occupied found
      exact .inr ⟨_, by rw [replace, if_neg (by simp [reached.target.isFile, found]), step]⟩

/-- How far the loop has come: the moves are done, and the entries are as they were staged. -/
structure Underway (place : String → Path) (written : Store) (moved : List (Staged × Bool))
    (entries : List Staged) (now : Store) : Prop where
  apart : Apart place (moved.map (·.1) ++ entries)
  ready : ∀ entry ∈ moved.map (·.1) ++ entries, Ready place written entry
  changed : ChangedAt ((moved.map (·.1)).flatMap (Staged.paths place)) written now
  done : ∀ move ∈ moved, move.1.Moved place written now move.2

theorem Underway.start (apart : Apart place entries)
    (ready : ∀ entry ∈ entries, Ready place written entry) :
    Underway place written [] entries written :=
  ⟨apart, ready, ChangedAt.refl _ _, by simp⟩

/-- What is moved has no path of what is still staged. -/
theorem Underway.untouched {now : Store} (underway : Underway place written moved entries now) :
    ∀ entry ∈ entries, ∀ path ∈ entry.paths place,
      path ∉ (moved.map (·.1)).flatMap (Staged.paths place) := by
  intro entry inEntries
  obtain ⟨-, -, separate⟩ := apart_append_iff.mp underway.apart
  exact notMem_flatMap_paths fun other inMoved path mine theirs =>
    separate other inMoved entry inEntries path theirs mine

/-- Replacing the next entry either brings the loop one further or changes nothing. -/
theorem Underway.replace (underway : Underway place written moved (entry :: entries) work.store) :
    (∃ store aside, work.replace entry = ({ work with store }, .ok aside) ∧
      Underway place written ((entry, aside) :: moved) entries store) ∨
    ∃ failure, work.replace entry = (work, .error failure) := by
  obtain ⟨apart, ready, changed, done⟩ := underway
  have untouched := Underway.untouched ⟨apart, ready, changed, done⟩ entry (by simp)
  obtain ⟨-, apartEntries, separate⟩ := apart_append_iff.mp apart
  have nodup := (apart_cons_iff.mp apartEntries).1
  have readyHere : Ready place work.store entry := (ready entry (by simp)).frame changed untouched
  rcases replace_spec readyHere nodup with ⟨store, aside, step, changedHere, movedHere⟩ | refused
  · have order : (moved.map (·.1) ++ entry :: entries).Perm
        (((entry, aside) :: moved).map (·.1) ++ entries) := List.perm_middle
    have outside : ∀ move ∈ moved, ∀ path ∈ move.1.paths place, path ∉ entry.paths place :=
      fun move inMoved => separate move.1 (List.mem_map.mpr ⟨move, inMoved, rfl⟩) entry (by simp)
    refine .inl ⟨store, aside, step, apart.perm order,
      fun other member => ready other (order.mem_iff.mpr member), ?_, ?_⟩
    · exact (changed.mono (by simp)).trans (changedHere.mono (by simp))
    · exact List.forall_mem_cons.mpr ⟨movedHere.rebase changed untouched, fun move inMoved =>
        (done move inMoved).frame changedHere (outside move inMoved)⟩
  · exact .inr refused

/-- Moves are undone last first, then what is still staged is removed. -/
theorem Underway.undo (underway : Underway place written moved entries work.store) :
    ∃ store, (work.rollBack moved).discard entries = { work with store } ∧
      ChangedAt ((moved.map (·.1) ++ entries).flatMap (Staged.paths place)) written store ∧
      ∀ entry ∈ moved.map (·.1) ++ entries, entry.Undone place written store := by
  have untouched := underway.untouched
  obtain ⟨apart, ready, changed, done⟩ := underway
  obtain ⟨apartMoved, apartEntries, separate⟩ := apart_append_iff.mp apart
  obtain ⟨readyMoved, readyEntries⟩ := List.forall_mem_append.mp ready
  obtain ⟨middle, rolledBack, changedBack, undone⟩ := rollBack_spec work apartMoved
    (fun move inMoved => (readyMoved move.1 (List.mem_map.mpr ⟨move, inMoved, rfl⟩)).reached.changed
      changed) done
  have readyMiddle : ∀ entry ∈ entries, Ready place middle entry := fun entry inEntries =>
    (readyEntries entry inEntries).frame (changed.trans changedBack) (untouched entry inEntries)
  obtain ⟨store, discarded, changedDiscard, gone⟩ := discard_spec
    { work with store := middle }
    (fun entry inEntries => (readyMiddle entry inEntries).reached.staged)
    (fun entry inEntries => (readyMiddle entry inEntries).occupied) apartEntries.staged
  have total := (changed.trans changedBack).mono (List.subset_append_left _
    (entries.map fun entry => place entry.staged)) |>.trans
    (changedDiscard.mono (List.subset_append_right _ _))
  refine ⟨store, by rw [rolledBack, discarded], ?_, List.forall_mem_append.mpr ⟨?_, ?_⟩⟩
  · rw [List.flatMap_append]
    exact total.mono (List.append_subset.mpr ⟨List.subset_append_left _ _,
      List.Subset.trans staged_subset_paths (List.subset_append_right _ _)⟩)
  · intro entry inMoved
    obtain ⟨move, member, rfl⟩ := List.mem_map.mp inMoved
    have outside := notMem_flatMap_paths (separate move.1 inMoved)
    exact (undone move member).frame changedDiscard fun path mine theirs =>
      outside path mine (staged_subset_paths theirs)
  · intro entry inEntries
    obtain ⟨target, backup⟩ := apartEntries.notMem_staged inEntries
    have fromMoved := untouched entry inEntries
    refine undone_of_untouched total (gone entry inEntries) ?_ ?_
    · rw [List.mem_append, not_or]
      exact ⟨fromMoved _ (target_mem_paths place entry), target⟩
    · rw [List.mem_append, not_or]
      exact ⟨fromMoved _ (backup_mem_paths place entry), backup⟩

theorem commit_error {result : Work} {failure : Failure}
    (underway : Underway place written moved entries work.store)
    (run : commit moved work entries = (result, .error failure)) :
    ∃ store, result = { work with store } ∧
      ChangedAt ((moved.map (·.1) ++ entries).flatMap (Staged.paths place)) written store ∧
      ∀ entry ∈ moved.map (·.1) ++ entries, entry.Undone place written store := by
  induction entries generalizing moved work with
  | nil => cases run
  | cons entry rest ih =>
    rcases underway.replace with ⟨store, aside, step, next⟩ | ⟨failure, step⟩
    · rw [commit, step] at run
      have order : (moved.map (·.1) ++ entry :: rest).Perm
          (((entry, aside) :: moved).map (·.1) ++ rest) := List.perm_middle
      obtain ⟨final, result, changed, undone⟩ := ih next run
      refine ⟨final, result, ?_, fun other member => undone other (order.mem_iff.mp member)⟩
      exact changed.mono (order.symm.flatMap_right _).subset
    · rw [commit, step] at run
      obtain ⟨store, undone⟩ := underway.undo
      cases run
      exact ⟨store, undone⟩

/-- If none is refused every entry is moved, in the order of the entries. -/
theorem commit_ok {result : Work} {moves : List (Staged × Bool)}
    (underway : Underway place written moved entries work.store)
    (run : commit moved work entries = (result, .ok moves)) :
    ∃ store, result = { work with store } ∧
      moves.map (·.1) = (moved.map (·.1)).reverse ++ entries ∧
      Underway place written moves.reverse [] store := by
  induction entries generalizing moved work with
  | nil =>
    cases run
    exact ⟨result.store, rfl, by simp, by rwa [List.reverse_reverse]⟩
  | cons entry rest ih =>
    rcases underway.replace with ⟨store, aside, step, next⟩ | ⟨failure, step⟩
    · rw [commit, step] at run
      obtain ⟨final, result, order, last⟩ := ih next run
      exact ⟨final, result, by simpa using order, last⟩
    · rw [commit, step] at run
      cases run

end TreeSchema.Work
