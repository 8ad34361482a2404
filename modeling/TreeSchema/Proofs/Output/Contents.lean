import TreeSchema.Proofs.Output.Staging

/-!
What staging leaves in the files. Each holds what one run of the formatter makes of the source of
its unit, however many units are staged after it.
-/

namespace TreeSchema

open Store

variable {place : String → Path} {store : Store} {text directory : String} {path : Path}

theorem Store.Leads.lookup?_eq (h : store.Leads text path) :
    store.lookup? text = store.get? path := by
  unfold Store.lookup?
  rw [h.resolve]
  cases found : store.get? path with
  | none => simp only [found]
  | some entry => cases entry <;> simp [found, h.noSlash]

/-- The text leads to a file with the source in it, and to the content after the formatter has run
on it once. Without a formatter the content is the source. -/
def FormatsTo (format? : Option FormatStep) (text : String) (source content : ByteArray)
    (store : Store) : Prop :=
  store.lookup? text = some (.file source) ∧
    match format? with
    | none => content = source
    | some format => (format text store).2 = none ∧
        (format text store).1.lookup? text = some (.file content)

theorem write_file {after : Store} {content : ByteArray} (leads : store.Leads text path)
    (noDevice : store.get? path ≠ some .null) (written : store.write text content = .ok after) :
    ChangedAt [path] store after ∧ after.get? path = some (.file content) := by
  obtain ⟨other, leadsToo, free, put | ⟨device, -⟩⟩ := write_eq_ok leads.noSlash written
  all_goals obtain rfl : path = other := Except.ok.inj (leads.resolve.symm.trans leadsToo.resolve)
  · subst put
    refine ⟨changedAt_put free (by simp), ?_⟩
    rw [get?_put _ _ _ (ne_nil_of_ne_directory free), if_pos rfl]
  · exact absurd device noDevice

/-- A formatter that rewrites the file leaves a file. -/
theorem FormatStep.Confined.file {format : FormatStep} (confined : format.Confined)
    (text : String) {source : ByteArray} (found : store.get? path = some (.file source)) :
    ∃ content, (format text store).1.get? path = some (.file content) := by
  rcases confined.rewritten text store path with same | ⟨old, new, -, after⟩
  · exact ⟨source, same.trans found⟩
  · exact ⟨new, after⟩

namespace Work

variable {work result : Work} {unit : SourceUnit} {units : List SourceUnit}
  {format? : Option FormatStep} {entry : Staged} {entries : List Staged}

/-- The staged file holds what the formatter made of the source in a store that differed from the
one before only in the given paths. -/
def Holds (format? : Option FormatStep) (before after : Store) (touched : List Path)
    (text : String) (source : ByteArray) (path : Path) : Prop :=
  ∃ written content, ChangedAt touched before written ∧
    FormatsTo format? text source content written ∧ after.get? path = some (.file content)

theorem Holds.mono {before after : Store} {touched wider : List Path} {source : ByteArray}
    (h : Holds format? before after touched text source path) (sub : touched ⊆ wider) :
    Holds format? before after wider text source path := by
  obtain ⟨written, content, changed, formats, found⟩ := h
  exact ⟨written, content, changed.mono sub, formats, found⟩

/-- Earlier changes count as changes of the store the formatter ran in. -/
theorem Holds.rebase {before middle after : Store} {touched : List Path} {source : ByteArray}
    (h : Holds format? middle after touched text source path)
    (changed : ChangedAt touched before middle) :
    Holds format? before after touched text source path := by
  obtain ⟨written, content, later, formats, found⟩ := h
  exact ⟨written, content, changed.trans later, formats, found⟩

/-- Later changes elsewhere leave the file as it is. -/
theorem Holds.frame {before middle after : Store} {touched later : List Path} {source : ByteArray}
    (h : Holds format? before middle touched text source path)
    (changed : ChangedAt later middle after) (outside : path ∉ later) :
    Holds format? before after touched text source path := by
  obtain ⟨written, content, earlier, formats, found⟩ := h
  exact ⟨written, content, earlier, formats, (changed.same path outside).trans found⟩

theorem stageEntry_holds (confined : ∀ format ∈ format?, format.Confined) (source : String)
    (noDevice : work.store.get? (place entry.staged) ≠ some .null)
    (leads : work.store.Leads entry.staged (place entry.staged))
    (run : stageEntry format? work entry source = (result, entries, none)) :
    Holds format? work.store result.store [place entry.staged] entry.staged source.toUTF8
      (place entry.staged) := by
  unfold stageEntry at run
  split at run
  next => cases run
  next store written =>
    obtain ⟨changed, found⟩ := write_file leads noDevice written
    have leads := changed.leads leads
    have file : store.lookup? entry.staged = some (.file source.toUTF8) :=
      leads.lookup?_eq.trans found
    cases format? with
    | none =>
      cases run
      exact ⟨store, source.toUTF8, changed, ⟨file, rfl⟩, found⟩
    | some format =>
      simp only at run
      split at run
      next => cases run
      next after ran =>
        have confined := confined format rfl
        obtain ⟨content, rewritten⟩ := confined.file entry.staged found
        have formatted := (confined.changedAt leads).leads leads
        have last := formatted.lookup?_eq.trans rewritten
        rw [ran] at rewritten last
        cases run
        exact ⟨store, content, changed, ⟨file, by rw [ran], by rw [ran]; exact last⟩, rewritten⟩

theorem andThen_eq_ok {first : Work × List Staged × Option Failure}
    {next : Work → Work × List Staged × Option Failure}
    (run : andThen first next = (result, entries, none)) :
    ∃ work front back, first = (work, front, none) ∧ next work = (result, back, none) ∧
      entries = front ++ back := by
  obtain ⟨work, front, _ | failure⟩ := first
  · rcases later : next work with ⟨last, back, failure?⟩
    simp only [andThen, later] at run
    cases run
    exact ⟨work, front, back, rfl, later, rfl⟩
  · cases run

/-- Each unit's file holds what the formatter made of it, the units after it changing nothing. -/
theorem stage_holds (places : Places place work.store) (separate : SourceUnit.Separate units)
    (confined : ∀ format ∈ format?, format.Confined)
    (noDevice : ∀ unit ∈ units,
      work.store.get? (place (Staged.ofUnit directory unit).staged) ≠ some .null)
    (run : stage directory format? work units = (result, entries, none)) :
    ∀ unit ∈ units, Holds format? work.store result.store
      (entries.map fun entry => place entry.staged) (Staged.ofUnit directory unit).staged
      unit.source.toUTF8 (place (Staged.ofUnit directory unit).staged) := by
  induction units generalizing work entries with
  | nil => simp
  | cons unit rest ih =>
    have all : StagedFrom place work.store ((unit :: rest).map (Staged.ofUnit directory))
        (result, entries, none) := run ▸ stage_spec directory places separate confined
    obtain rfl : entries = (unit :: rest).map (Staged.ofUnit directory) := all.complete rfl
    have distinct :=
      (Staged.apart_ofUnits places separate (List.forall_mem_map.mp all.leads)).staged
    obtain ⟨fresh, -⟩ := List.nodup_cons.mp distinct
    obtain ⟨middle, front, back, first, later, parts⟩ := andThen_eq_ok run
    have nameable := separate.nameable unit (by simp)
    have here : StagedFrom place work.store [Staged.ofUnit directory unit] (middle, front, none) :=
      first ▸ stageEntry_spec (Staged.ofUnit directory unit) places confined
        (endsInSlash_joinPath directory (nameable.isName (by simp [SourceUnit.suffixes])))
        unit.source
    obtain rfl : front = [Staged.ofUnit directory unit] := here.complete rfl
    obtain rfl : back = rest.map (Staged.ofUnit directory) := by simpa using parts.symm
    have changed : ChangedAt [place (Staged.ofUnit directory unit).staged] work.store
        middle.store := here.changed
    have afterwards : StagedFrom place middle.store (rest.map (Staged.ofUnit directory))
        (result, rest.map (Staged.ofUnit directory), none) :=
      later ▸ stage_spec directory (places.changed changed) separate.tail confined
    rw [List.forall_mem_cons]
    constructor
    · have holds := stageEntry_holds confined unit.source (noDevice unit (by simp))
        (all.leads _ (by simp)) first
      exact (holds.frame afterwards.changed fresh).mono (by simp)
    · have others := ih (places.changed changed) separate.tail ?_ later
      · intro other inRest
        exact ((others other inRest).mono (by simp)).rebase (changed.mono (by simp))
      · intro other inRest
        rw [changed.same]
        · exact noDevice other (List.mem_cons_of_mem _ inRest)
        · intro same
          refine fresh (List.mem_map.mpr ⟨Staged.ofUnit directory other, ?_, ?_⟩)
          · exact List.mem_map.mpr ⟨other, inRest, rfl⟩
          · exact List.mem_singleton.mp same

end Work

end TreeSchema
