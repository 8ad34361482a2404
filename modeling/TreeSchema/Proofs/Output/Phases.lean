import Mathlib.Data.List.Nodup
import TreeSchema.Output
import TreeSchema.Proofs.Store.Changes

/-!
What becomes of one unit's three names while units are moved into place. `written` is the store in
which everything is staged and nothing is moved yet; `place` tells where a text leads.
-/

namespace TreeSchema.Staged

open Store

variable {place : String → Path} {written before now after : Store} {entry other : Staged}
  {aside : Bool} {touched : List Path} {front back : List Staged}

def paths (place : String → Path) (entry : Staged) : List Path :=
  [place entry.staged, place entry.target, place entry.backup]

theorem staged_mem_paths (place : String → Path) (entry : Staged) :
    place entry.staged ∈ entry.paths place := by simp [Staged.paths]

theorem target_mem_paths (place : String → Path) (entry : Staged) :
    place entry.target ∈ entry.paths place := by simp [Staged.paths]

theorem backup_mem_paths (place : String → Path) (entry : Staged) :
    place entry.backup ∈ entry.paths place := by simp [Staged.paths]

theorem staged_subset_paths :
    (front.map fun entry => place entry.staged) ⊆ front.flatMap (Staged.paths place) := by
  intro path member
  obtain ⟨entry, inFront, rfl⟩ := List.mem_map.mp member
  exact List.mem_flatMap.mpr ⟨entry, inFront, staged_mem_paths place entry⟩

theorem notMem_flatMap_paths
    (separate : ∀ other ∈ front, ∀ path ∈ entry.paths place, path ∉ other.paths place) :
    ∀ path ∈ entry.paths place, path ∉ front.flatMap (Staged.paths place) := by
  intro path mine theirs
  obtain ⟨other, inFront, theirs⟩ := List.mem_flatMap.mp theirs
  exact separate other inFront path mine theirs

/-- No two names of the entries lead to one path. -/
def Apart (place : String → Path) (entries : List Staged) : Prop :=
  (entries.flatMap (Staged.paths place)).Nodup

theorem Apart.perm (h : Apart place front) (same : front.Perm back) : Apart place back :=
  (same.flatMap_right _).nodup_iff.mp h

theorem apart_append_iff :
    Apart place (front ++ back) ↔ Apart place front ∧ Apart place back ∧
      ∀ entry ∈ front, ∀ other ∈ back, ∀ path ∈ entry.paths place, path ∉ other.paths place := by
  unfold Apart
  rw [List.flatMap_append, List.nodup_append']
  refine and_congr_right fun _ => and_congr_right fun _ => ?_
  constructor
  · intro disjoint entry inFront other inBack path left right
    exact disjoint (List.mem_flatMap.mpr ⟨entry, inFront, left⟩)
      (List.mem_flatMap.mpr ⟨other, inBack, right⟩)
  · intro separate path left right
    obtain ⟨entry, inFront, left⟩ := List.mem_flatMap.mp left
    obtain ⟨other, inBack, right⟩ := List.mem_flatMap.mp right
    exact separate entry inFront other inBack path left right

theorem apart_cons_iff :
    Apart place (entry :: back) ↔ (entry.paths place).Nodup ∧ Apart place back ∧
      ∀ other ∈ back, ∀ path ∈ entry.paths place, path ∉ other.paths place := by
  rw [← List.singleton_append, apart_append_iff]
  simp [Apart]

theorem Apart.staged (h : Apart place front) :
    (front.map fun entry => place entry.staged).Nodup := by
  induction front with
  | nil => exact List.nodup_nil
  | cons entry rest ih =>
    obtain ⟨-, others, separate⟩ := apart_cons_iff.mp h
    refine List.nodup_cons.mpr ⟨fun twice => ?_, ih others⟩
    obtain ⟨other, inRest, same⟩ := List.mem_map.mp twice
    refine separate other inRest _ (staged_mem_paths place entry) ?_
    rw [← show place other.staged = place entry.staged from same]
    exact staged_mem_paths place other

theorem ne_of_paths_nodup (h : (entry.paths place).Nodup) :
    place entry.staged ≠ place entry.target ∧ place entry.staged ≠ place entry.backup ∧
      place entry.target ≠ place entry.backup := by
  simpa [Staged.paths, not_or, and_assoc] using h

/-- Of the entries' paths only the staged ones are among the staged ones. -/
theorem Apart.notMem_staged (h : Apart place front) (member : entry ∈ front) :
    place entry.target ∉ front.map (fun entry => place entry.staged) ∧
      place entry.backup ∉ front.map (fun entry => place entry.staged) := by
  induction front with
  | nil => cases member
  | cons first rest ih =>
    obtain ⟨nodup, apart, separate⟩ := apart_cons_iff.mp h
    have fromRest : ∀ path ∈ first.paths place,
        path ∉ rest.map fun other => place other.staged :=
      fun path mine theirs => notMem_flatMap_paths separate path mine (staged_subset_paths theirs)
    rw [List.map_cons, List.mem_cons, List.mem_cons, not_or, not_or]
    rcases List.mem_cons.mp member with rfl | inRest
    · obtain ⟨stagedTarget, stagedBackup, -⟩ := ne_of_paths_nodup nodup
      exact ⟨⟨stagedTarget.symm, fromRest _ (target_mem_paths place entry)⟩,
        stagedBackup.symm, fromRest _ (backup_mem_paths place entry)⟩
    · have fromFirst : ∀ path ∈ entry.paths place, path ≠ place first.staged :=
        fun path mine same => separate entry inRest _ (staged_mem_paths place first) (same ▸ mine)
      exact ⟨⟨fromFirst _ (target_mem_paths place entry), (ih apart inRest).1⟩,
        fromFirst _ (backup_mem_paths place entry), (ih apart inRest).2⟩

/-- The three names lead to their paths. -/
structure Reached (place : String → Path) (store : Store) (entry : Staged) : Prop where
  staged : store.Leads entry.staged (place entry.staged)
  target : store.Leads entry.target (place entry.target)
  backup : store.Leads entry.backup (place entry.backup)

theorem Reached.changed (h : entry.Reached place before)
    (changed : ChangedAt touched before after) :
    entry.Reached place after :=
  ⟨changed.leads h.staged, changed.leads h.target, changed.leads h.backup⟩

/-! ### Phases -/

/-- The staged file is in place. If a file was there it stands aside. -/
structure Moved (place : String → Path) (written now : Store) (entry : Staged) (aside : Bool) :
    Prop where
  staged : now.get? (place entry.staged) = none
  occupied : now.Occupied (place entry.target)
  target : now.get? (place entry.target) = written.get? (place entry.staged)
  ofAside : aside = true → now.get? (place entry.backup) = written.get? (place entry.target) ∧
    ∃ content, written.get? (place entry.target) = some (.file content)
  ofFresh : aside = false → now.get? (place entry.backup) = written.get? (place entry.backup) ∧
    written.get? (place entry.target) = none

/-- The staged file is gone, and the one it should replace is where it was. -/
structure Undone (place : String → Path) (written now : Store) (entry : Staged) : Prop where
  staged : now.get? (place entry.staged) = none
  target : now.get? (place entry.target) = written.get? (place entry.target)
  backup : ((∃ content, written.get? (place entry.target) = some (.file content)) ∧
      now.get? (place entry.backup) = none) ∨
    now.get? (place entry.backup) = written.get? (place entry.backup)

/-- The staged file is in place, and the one that was there is gone. -/
structure Settled (place : String → Path) (written now : Store) (entry : Staged) : Prop where
  staged : now.get? (place entry.staged) = none
  target : now.get? (place entry.target) = written.get? (place entry.staged)
  backup : ((∃ content, written.get? (place entry.target) = some (.file content)) ∧
      now.get? (place entry.backup) = none) ∨
    (written.get? (place entry.target) = none ∧
      now.get? (place entry.backup) = written.get? (place entry.backup))

/-- A phase rests on the three paths of the entry. -/
theorem same_of_outside (changed : ChangedAt touched before after)
    (outside : ∀ path ∈ entry.paths place, path ∉ touched) :
    after.get? (place entry.staged) = before.get? (place entry.staged) ∧
      after.get? (place entry.target) = before.get? (place entry.target) ∧
      after.get? (place entry.backup) = before.get? (place entry.backup) :=
  ⟨changed.same _ (outside _ (staged_mem_paths place entry)),
    changed.same _ (outside _ (target_mem_paths place entry)),
    changed.same _ (outside _ (backup_mem_paths place entry))⟩

theorem Moved.frame (h : entry.Moved place written before aside)
    (changed : ChangedAt touched before after)
    (outside : ∀ path ∈ entry.paths place, path ∉ touched) :
    entry.Moved place written after aside := by
  obtain ⟨staged, target, backup⟩ := same_of_outside changed outside
  refine ⟨staged.trans h.staged, h.occupied.of_same target, target.trans h.target,
    fun isAside => ?_, fun isFresh => ?_⟩
  · exact ⟨backup.trans (h.ofAside isAside).1, (h.ofAside isAside).2⟩
  · exact ⟨backup.trans (h.ofFresh isFresh).1, (h.ofFresh isFresh).2⟩

/-- The phase is the same from any earlier store that had the entry's paths as they were. -/
theorem Moved.rebase (h : entry.Moved place before now aside)
    (changed : ChangedAt touched written before)
    (outside : ∀ path ∈ entry.paths place, path ∉ touched) :
    entry.Moved place written now aside := by
  obtain ⟨staged, target, backup⟩ := same_of_outside changed outside
  refine ⟨h.staged, h.occupied, h.target.trans staged, fun isAside => ?_, fun isFresh => ?_⟩
  · obtain ⟨kept, content, file⟩ := h.ofAside isAside
    exact ⟨kept.trans target, content, target.symm.trans file⟩
  · obtain ⟨kept, absent⟩ := h.ofFresh isFresh
    exact ⟨kept.trans backup, target.symm.trans absent⟩

theorem Undone.frame (h : entry.Undone place written before)
    (changed : ChangedAt touched before after)
    (outside : ∀ path ∈ entry.paths place, path ∉ touched) :
    entry.Undone place written after := by
  obtain ⟨staged, target, backup⟩ := same_of_outside changed outside
  refine ⟨staged.trans h.staged, target.trans h.target, ?_⟩
  exact h.backup.imp (And.imp_right backup.trans) backup.trans

theorem Undone.rebase (h : entry.Undone place before now)
    (changed : ChangedAt touched written before) (target : place entry.target ∉ touched)
    (backup : place entry.backup ∉ touched) : entry.Undone place written now := by
  have target := changed.same _ target
  refine ⟨h.staged, h.target.trans target, ?_⟩
  exact h.backup.imp (And.imp_left fun ⟨content, file⟩ => ⟨content, target.symm.trans file⟩)
    fun kept => kept.trans (changed.same _ backup)

theorem Settled.frame (h : entry.Settled place written before)
    (changed : ChangedAt touched before after)
    (outside : ∀ path ∈ entry.paths place, path ∉ touched) :
    entry.Settled place written after := by
  obtain ⟨staged, target, backup⟩ := same_of_outside changed outside
  exact ⟨staged.trans h.staged, target.trans h.target,
    h.backup.imp (And.imp_right backup.trans) (And.imp_right backup.trans)⟩

theorem undone_of_untouched (changed : ChangedAt touched written now)
    (gone : now.get? (place entry.staged) = none) (target : place entry.target ∉ touched)
    (backup : place entry.backup ∉ touched) : entry.Undone place written now :=
  ⟨gone, changed.same _ target, .inr (changed.same _ backup)⟩

end TreeSchema.Staged
