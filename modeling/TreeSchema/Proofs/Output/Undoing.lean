import TreeSchema.Proofs.Output.Phases

/-!
Cleaning up. Each step finds what it removes or puts back, so it succeeds, reports nothing and
changes the store alone.
-/

namespace TreeSchema.Work

open Store Staged

variable {place : String → Path} {written : Store} {work : Work} {entry : Staged}

theorem attempt_eq {event : IoFault → Event} {result : Except IoFault Store} {store : Store}
    (h : result = .ok store) : work.attempt event result = { work with store } := by
  rw [h, attempt]

/-! ### One entry after the other -/

/-- What is said of an entry rests on the three paths of the entry. -/
def Framed (place : String → Path) (rests : Store → Staged × Bool → Prop) : Prop :=
  ∀ (move : Staged × Bool) (touched : List Path) (before after : Store),
    ChangedAt touched before after → (∀ path ∈ move.1.paths place, path ∉ touched) →
    rests before move → rests after move

theorem framed_moved : Framed place fun now move => move.1.Moved place written now move.2 :=
  fun _ _ _ _ changed outside moved => moved.frame changed outside

/-- The step succeeds for an entry that has what it needs. It changes the paths of this entry only,
and reports these events. -/
def Handles (place : String → Path) (step : Work → Staged × Bool → Work)
    (events : Staged × Bool → List Event) (needs leaves : Store → Staged × Bool → Prop) : Prop :=
  ∀ (work : Work) (move : Staged × Bool), move.1.Reached place work.store →
    (move.1.paths place).Nodup → needs work.store move →
    ∃ store, step work move = ⟨store, work.log ++ events move⟩ ∧
      ChangedAt (move.1.paths place) work.store store ∧ leaves store move

variable {step : Work → Staged × Bool → Work} {events : Staged × Bool → List Event}
  {needs leaves : Store → Staged × Bool → Prop} {moves : List (Staged × Bool)}

/-- What a step does for one entry it does for each of several ones, as what it needs and what it
leaves rest on the paths of the entry. -/
theorem Handles.foldl (handles : Handles place step events needs leaves)
    (needsFramed : Framed place needs) (leavesFramed : Framed place leaves) (work : Work)
    (apart : Apart place (moves.map (·.1)))
    (reached : ∀ move ∈ moves, move.1.Reached place work.store)
    (ready : ∀ move ∈ moves, needs work.store move) :
    ∃ store, moves.foldl step work = ⟨store, work.log ++ moves.flatMap events⟩ ∧
      ChangedAt ((moves.map (·.1)).flatMap (Staged.paths place)) work.store store ∧
      ∀ move ∈ moves, leaves store move := by
  induction moves generalizing work with
  | nil => exact ⟨work.store, by simp, ChangedAt.refl _ _, by simp⟩
  | cons move rest ih =>
    obtain ⟨nodup, apart, separate⟩ := apart_cons_iff.mp apart
    obtain ⟨reachedHere, reachedRest⟩ := List.forall_mem_cons.mp reached
    obtain ⟨readyHere, readyRest⟩ := List.forall_mem_cons.mp ready
    obtain ⟨middle, run, changed, left⟩ := handles work move reachedHere nodup readyHere
    have outside : ∀ other ∈ rest, ∀ path ∈ other.1.paths place, path ∉ move.1.paths place := by
      intro other inRest path theirs mine
      exact separate other.1 (List.mem_map_of_mem inRest) path mine theirs
    obtain ⟨store, result, changedRest, leftRest⟩ := ih ⟨middle, work.log ++ events move⟩ apart
      (fun other inRest => (reachedRest other inRest).changed changed)
      (fun other inRest => needsFramed other _ _ _ changed (outside other inRest)
        (readyRest other inRest))
    refine ⟨store, ?_, ?_, List.forall_mem_cons.mpr ⟨?_, leftRest⟩⟩
    · rw [List.foldl_cons, run, result, List.flatMap_cons, List.append_assoc]
    · rw [List.map_cons, List.flatMap_cons]
      exact (changed.mono (List.subset_append_left _ _)).trans
        (changedRest.mono (List.subset_append_right _ _))
    · exact leavesFramed move _ _ _ changedRest (notMem_flatMap_paths separate) left

/-! ### Discarding -/

theorem discard_spec (work : Work) {entries : List Staged}
    (leads : ∀ entry ∈ entries, work.store.Leads entry.staged (place entry.staged))
    (occupied : ∀ entry ∈ entries, work.store.Occupied (place entry.staged))
    (distinct : (entries.map fun entry => place entry.staged).Nodup) :
    ∃ store, work.discard entries = { work with store } ∧
      ChangedAt (entries.map fun entry => place entry.staged) work.store store ∧
      ∀ entry ∈ entries, store.get? (place entry.staged) = none := by
  induction entries generalizing work with
  | nil => exact ⟨work.store, rfl, ChangedAt.refl _ _, by simp⟩
  | cons entry rest ih =>
    obtain ⟨fresh, distinct⟩ := List.nodup_cons.mp distinct
    obtain ⟨here, others⟩ := List.forall_mem_cons.mp occupied
    obtain ⟨middle, removed, erased, left⟩ := remove_spec (leads entry (by simp)) here
    have step : work.discard (entry :: rest) =
        ({ work with store := middle } : Work).discard rest := by
      rw [discard, List.foldl_cons, attempt_eq removed]
      rfl
    have others : ∀ other ∈ rest, middle.Occupied (place other.staged) := by
      intro other inRest
      refine (others other inRest).of_same (erased.same _ ?_)
      rw [List.mem_singleton]
      exact fun same => fresh (List.mem_map.mpr ⟨other, inRest, same⟩)
    obtain ⟨store, result, changed, gone⟩ := ih { work with store := middle }
      (fun other inRest => erased.leads (leads other (by simp [inRest]))) others distinct
    refine ⟨store, step.trans result, ?_, List.forall_mem_cons.mpr ⟨?_, gone⟩⟩
    · exact (erased.mono (by simp)).trans (changed.mono (by simp))
    · rw [changed.same _ fresh, left, if_pos rfl]

/-! ### Undoing moves -/

theorem restore_spec (reached : entry.Reached place work.store)
    (nodup : (entry.paths place).Nodup) (moved : entry.Moved place written work.store true) :
    ∃ store, work.restore entry = { work with store } ∧
      ChangedAt (entry.paths place) work.store store ∧ entry.Undone place written store := by
  obtain ⟨stagedTarget, stagedBackup, targetBackup⟩ := ne_of_paths_nodup nodup
  obtain ⟨aside, content, previous⟩ := moved.ofAside rfl
  have found : work.store.get? (place entry.backup) = some (.file content) := aside.trans previous
  obtain ⟨store, renamed, changed, left⟩ := rename_spec reached.backup reached.target found
    (by simp) moved.occupied.ne_directory
  refine ⟨store, attempt_eq renamed, changed.mono (by simp [Staged.paths]), ?_, ?_,
    .inl ⟨⟨content, previous⟩, ?_⟩⟩
  · rw [left, if_neg stagedTarget, if_neg stagedBackup, moved.staged]
  · rw [left, if_pos rfl, previous]
  · rw [left, if_neg targetBackup.symm, if_pos rfl]

theorem removeOutput_spec {event : IoFault → Event} (reached : entry.Reached place work.store)
    (nodup : (entry.paths place).Nodup) (moved : entry.Moved place written work.store false) :
    ∃ store, work.attempt event (work.store.remove entry.target) = { work with store } ∧
      ChangedAt (entry.paths place) work.store store ∧ entry.Undone place written store := by
  obtain ⟨stagedTarget, -, targetBackup⟩ := ne_of_paths_nodup nodup
  obtain ⟨backup, previous⟩ := moved.ofFresh rfl
  obtain ⟨store, removed, changed, left⟩ := remove_spec reached.target moved.occupied
  refine ⟨store, attempt_eq removed, changed.mono (by simp [Staged.paths]), ?_, ?_, .inr ?_⟩
  · rw [left, if_neg stagedTarget, moved.staged]
  · rw [left, if_pos rfl, previous]
  · rw [left, if_neg targetBackup.symm, backup]

theorem rollBack_entry {aside : Bool} (reached : entry.Reached place work.store)
    (nodup : (entry.paths place).Nodup) (moved : entry.Moved place written work.store aside) :
    ∃ store, work.rollBack [(entry, aside)] = { work with store } ∧
      ChangedAt (entry.paths place) work.store store ∧ entry.Undone place written store := by
  cases aside with
  | true => exact restore_spec reached nodup moved
  | false => exact removeOutput_spec reached nodup moved

theorem Handles.rollBack
    (handles : Handles place (fun work move => work.rollBack [move]) (fun _ => []) needs leaves)
    (needsFramed : Framed place needs) (leavesFramed : Framed place leaves) (work : Work)
    (apart : Apart place (moves.map (·.1)))
    (reached : ∀ move ∈ moves, move.1.Reached place work.store)
    (ready : ∀ move ∈ moves, needs work.store move) :
    ∃ store, work.rollBack moves = { work with store } ∧
      ChangedAt ((moves.map (·.1)).flatMap (Staged.paths place)) work.store store ∧
      ∀ move ∈ moves, leaves store move := by
  obtain ⟨store, result, left⟩ :=
    handles.foldl needsFramed leavesFramed work apart reached ready
  refine ⟨store, ?_, left⟩
  calc work.rollBack moves
    _ = moves.foldl (fun work move => work.rollBack [move]) work := rfl
    _ = { work with store } := by
      rw [result, List.flatMap_eq_nil_iff.mpr fun _ _ => rfl, List.append_nil]

theorem rollBack_spec (work : Work) (apart : Apart place (moves.map (·.1)))
    (reached : ∀ move ∈ moves, move.1.Reached place work.store)
    (done : ∀ move ∈ moves, move.1.Moved place written work.store move.2) :
    ∃ store, work.rollBack moves = { work with store } ∧
      ChangedAt ((moves.map (·.1)).flatMap (Staged.paths place)) work.store store ∧
      ∀ move ∈ moves, move.1.Undone place written store := by
  have handles : Handles place (fun work move => work.rollBack [move]) (fun _ => [])
      (fun now move => move.1.Moved place written now move.2)
      fun now move => move.1.Undone place written now := by
    intro work move reached nodup moved
    rw [List.append_nil]
    exact rollBack_entry reached nodup moved
  have undone : Framed place fun now move => move.1.Undone place written now :=
    fun move _ _ _ changed outside undone => undone.frame changed outside
  exact handles.rollBack framed_moved undone work apart reached done

end TreeSchema.Work
