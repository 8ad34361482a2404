import TreeSchema.Proofs.Output.Naming
import TreeSchema.Proofs.Output.Phases

/-!
Staging. Whatever stops it, the entries it answers with are written, and nothing else is changed.
-/

namespace TreeSchema

open Store

variable {place : String → Path} {store : Store} {text directory : String} {path : Path}

/-- The formatter may fail, and may rewrite the file it is given. It changes nothing else. -/
structure FormatStep.Confined (format : FormatStep) : Prop where
  home : ∀ text store, (format text store).1.home = store.home
  elsewhere : ∀ text store path, store.resolve text ≠ .ok path →
    (format text store).1.get? path = store.get? path
  rewritten : ∀ text store path, (format text store).1.get? path = store.get? path ∨
    ∃ old new, store.get? path = some (.file old) ∧
      (format text store).1.get? path = some (.file new)

theorem FormatStep.Confined.changedAt {format : FormatStep} (confined : format.Confined)
    (leads : store.Leads text path) : ChangedAt [path] store (format text store).1 where
  home := confined.home text store
  same other outside := by
    refine confined.elsewhere text store other fun resolved => outside ?_
    rw [leads.resolve] at resolved
    exact List.mem_singleton.mpr (Except.ok.inj resolved).symm
  directory other := by
    rcases confined.rewritten text store other with same | ⟨old, new, before, after⟩
    · rw [same]
    · simp [before, after]

theorem FormatStep.Confined.occupied {format : FormatStep} (confined : format.Confined)
    (text : String) (h : store.Occupied path) : (format text store).1.Occupied path := by
  obtain ⟨entry, found, file⟩ := h
  rcases confined.rewritten text store path with same | ⟨old, new, -, after⟩
  · exact ⟨entry, same.trans found, file⟩
  · exact ⟨.file new, after, by simp⟩

/-- A formatter that puts the same content into every file. -/
def FormatStep.fill (content : ByteArray) : FormatStep := fun text store =>
  match store.resolve text with
  | .error fault => (store, some (.sink text fault))
  | .ok path =>
    match store.get? path with
    | some (.file _) => (store.put path (.file content), none)
    | _ => (store, some (.sink text .notFound))

theorem FormatStep.fill_confined (content : ByteArray) : (fill content).Confined := by
  have each : ∀ text store, (fill content text store).1 = store ∨ ∃ path old,
      store.resolve text = .ok path ∧ store.get? path = some (.file old) ∧
      (fill content text store).1 = store.put path (.file content) := by
    intro text store
    unfold fill
    split
    next => exact .inl rfl
    next path resolved =>
      split
      next old found => exact .inr ⟨path, old, resolved, found, rfl⟩
      next => exact .inl rfl
  have afterPut : ∀ {store : Store} {place path old}, store.get? place = some (.file old) →
      (store.put place (.file content)).get? path =
        if path = place then some (.file content) else store.get? path := by
    intro store place path old found
    have file : store.get? place ≠ some .directory := by simp [found]
    exact get?_put store path _ (ne_nil_of_ne_directory file)
  refine ⟨fun text store => ?_, fun text store path other => ?_, fun text store path => ?_⟩
  all_goals rcases each text store with same | ⟨place, old, resolved, found, put⟩
  · rw [same]
  · rw [put]
    rfl
  · rw [same]
  · rw [put, afterPut found, if_neg]
    rintro rfl
    exact other resolved
  · exact .inl (by rw [same])
  · by_cases here : path = place
    · subst here
      exact .inr ⟨old, content, found, by rw [put, afterPut found, if_pos rfl]⟩
    · exact .inl (by rw [put, afterPut found, if_neg here])

theorem write_spec {after : Store} {content : ByteArray} (noSlash : endsInSlash text = false)
    (written : store.write text content = .ok after) :
    ∃ path, store.Leads text path ∧ ChangedAt [path] store after ∧ after.Occupied path := by
  obtain ⟨path, leads, free, rfl | ⟨device, rfl⟩⟩ := write_eq_ok noSlash written
  · refine ⟨path, leads, changedAt_put free (by simp), .file content, ?_, by simp⟩
    rw [get?_put _ _ _ (ne_nil_of_ne_directory free), if_pos rfl]
  · exact ⟨path, leads, ChangedAt.refl _ _, .null, device, by simp⟩

/-- `place` gives the path of every text that leads to one. -/
def Places (place : String → Path) (store : Store) : Prop :=
  ∀ text path, store.resolve text = .ok path → place text = path

theorem Places.changed {touched : List Path} {before after : Store} (h : Places place before)
    (changed : ChangedAt touched before after) : Places place after :=
  fun text path resolved => h text path (changed.resolve_iff.mp resolved)

theorem Places.leads {other : Path} (h : Places place store) (leads : store.Leads text other) :
    store.Leads text (place text) := by
  rw [h text other leads.resolve]
  exact leads

/-! ### Units -/

namespace Staged

variable {unit other : SourceUnit} {units : List SourceUnit}

/-- The paths of a unit's three names, once the longest of them leads somewhere. -/
theorem paths_ofUnit (places : Places place store) (nameable : unit.Nameable)
    (leads : store.Leads (ofUnit directory unit).staged path) :
    ∃ here, store.Opens directory here ∧
      (ofUnit directory unit).paths place = unit.fileNames.map (here ++ [·]) ∧
      (ofUnit directory unit).Reached place store := by
  obtain ⟨here, opens, reached⟩ := leads_fileNames nameable leads
  have staged := reached ".tmp.rs" (by simp [SourceUnit.suffixes])
  have target := reached ".rs" (by simp [SourceUnit.suffixes])
  have backup := reached ".old.rs" (by simp [SourceUnit.suffixes])
  refine ⟨here, opens, ?_, places.leads staged, places.leads target, places.leads backup⟩
  have atStaged := places _ _ staged.resolve
  have atTarget := places _ _ target.resolve
  have atBackup := places _ _ backup.resolve
  simp only [Staged.paths, ofUnit, SourceUnit.fileName, SourceUnit.fileNames, SourceUnit.suffixes,
    List.map_cons, List.map_nil, atStaged, atTarget, atBackup]

theorem apart_ofUnits (places : Places place store) (separate : SourceUnit.Separate units)
    (leads : ∀ unit ∈ units, store.Leads (ofUnit directory unit).staged
      (place (ofUnit directory unit).staged)) :
    Apart place (units.map (ofUnit directory)) := by
  cases units with
  | nil => exact List.nodup_nil
  | cons first rest =>
    obtain ⟨here, opens, -⟩ := paths_ofUnit places (separate.nameable first (by simp))
      (leads first (by simp))
    have all : ((first :: rest).map (ofUnit directory)).flatMap (Staged.paths place) =
        ((first :: rest).flatMap SourceUnit.fileNames).map (here ++ [·]) := by
      rw [List.flatMap_map, List.map_flatMap]
      refine List.flatMap_congr fun unit member => ?_
      obtain ⟨there, opensToo, paths, -⟩ := paths_ofUnit places (separate.nameable unit member)
        (leads unit member)
      rw [opens.unique opensToo, paths]
    rw [Apart, all]
    exact separate.fileNames_nodup.map fun left right same => by simpa using same

end Staged

/-! ### The loop -/

namespace Work

variable {work : Work} {unit : SourceUnit} {units : List SourceUnit} {format? : Option FormatStep}
  {entry : Staged} {all : List Staged}

/-- What staging answers: the entries it has come to, which are all of them if nothing failed. -/
structure StagedFrom (place : String → Path) (before : Store) (all : List Staged)
    (result : Work × List Staged × Option Failure) : Prop where
  front : result.2.1 <+: all
  complete : result.2.2 = none → result.2.1 = all
  changed : ChangedAt (result.2.1.map fun entry => place entry.staged) before result.1.store
  leads : ∀ entry ∈ result.2.1, before.Leads entry.staged (place entry.staged)
  occupied : ∀ entry ∈ result.2.1, result.1.store.Occupied (place entry.staged)

theorem stageEntry_spec (entry : Staged) (places : Places place work.store)
    (confined : ∀ format ∈ format?, format.Confined) (noSlash : endsInSlash entry.staged = false)
    (source : String) :
    StagedFrom place work.store [entry] (stageEntry format? work entry source) := by
  rw [stageEntry]
  split
  next fault failed =>
    exact ⟨List.nil_prefix, by simp, ChangedAt.refl _ _, by simp, by simp⟩
  next store written =>
    obtain ⟨path, leads, changed, occupied⟩ := write_spec noSlash written
    obtain rfl := places _ _ leads.resolve
    -- whatever is done to the store next, only the staged file is concerned
    have result : ∀ (next : Work) (failure? : Option Failure),
        ChangedAt [place entry.staged] work.store next.store →
        next.store.Occupied (place entry.staged) →
        StagedFrom place work.store [entry] (next, [entry], failure?) :=
      fun next failure? changed occupied =>
        ⟨List.prefix_rfl, fun _ => rfl, changed, by simpa using leads, by simpa using occupied⟩
    cases format? with
    | none => exact result { work with store } none changed occupied
    | some format =>
      have confined := confined format rfl
      have formatted := changed.trans (confined.changedAt (changed.leads leads))
      have kept := confined.occupied entry.staged occupied
      simp only
      split
      next after failure ran =>
        rw [ran] at formatted kept
        exact result { work with store := after } (some failure) formatted kept
      next after ran =>
        rw [ran] at formatted kept
        exact result (Work.report { work with store := after } (.formatted entry.staged)) none
          formatted kept

theorem StagedFrom.andThen {before : Store} {first : Work × List Staged × Option Failure}
    {next : Work → Work × List Staged × Option Failure}
    (here : StagedFrom place before [entry] first)
    (later : StagedFrom place first.1.store all (next first.1))
    (fresh : before.Leads entry.staged (place entry.staged) →
      (∀ other ∈ (next first.1).2.1, before.Leads other.staged (place other.staged)) →
      place entry.staged ∉ (next first.1).2.1.map fun entry => place entry.staged) :
    StagedFrom place before (entry :: all) (andThen first next) := by
  obtain ⟨work, entries, failure?⟩ := first
  cases failure? with
  | some failure =>
    refine ⟨here.front.trans ?_, by simp [Work.andThen], here.changed, here.leads, here.occupied⟩
    exact List.cons_prefix_cons.mpr ⟨rfl, List.nil_prefix⟩
  | none =>
    obtain rfl : entries = [entry] := here.complete rfl
    have leadsHere := here.leads entry (by simp)
    have leadsLater : ∀ other ∈ (next work).2.1, before.Leads other.staged (place other.staged) :=
      fun other member =>
        ⟨here.changed.resolve_iff.mp (later.leads other member).resolve,
          (later.leads other member).noSlash⟩
    have apart := fresh leadsHere leadsLater
    refine ⟨List.cons_prefix_cons.mpr ⟨rfl, later.front⟩, fun done => ?_, ?_, ?_, ?_⟩
    · exact congrArg (entry :: ·) (later.complete done)
    · have entries : (Work.andThen (work, [entry], none) next).2.1 = entry :: (next work).2.1 := rfl
      rw [entries]
      exact (here.changed.mono (by simp)).trans (later.changed.mono (by simp))
    · exact List.forall_mem_cons.mpr ⟨leadsHere, leadsLater⟩
    · have occupied := here.occupied entry (by simp)
      exact List.forall_mem_cons.mpr
        ⟨occupied.of_same (later.changed.same _ apart), later.occupied⟩

theorem stage_spec (directory : String) (places : Places place work.store)
    (separate : SourceUnit.Separate units) (confined : ∀ format ∈ format?, format.Confined) :
    StagedFrom place work.store (units.map (Staged.ofUnit directory))
      (stage directory format? work units) := by
  induction units generalizing work with
  | nil =>
    exact ⟨List.prefix_rfl, fun _ => rfl, ChangedAt.refl _ _, by simp [stage], by simp [stage]⟩
  | cons unit rest ih =>
    have nameable := separate.nameable unit (by simp)
    have here := stageEntry_spec (Staged.ofUnit directory unit) places confined
      (endsInSlash_joinPath directory (nameable.isName (by simp [SourceUnit.suffixes]))) unit.source
    have later := ih (places.changed here.changed) separate.tail
    refine here.andThen later fun leadsHere leadsLater twice => ?_
    obtain ⟨other, member, same⟩ := List.mem_map.mp twice
    obtain ⟨there, inRest, rfl⟩ := List.mem_map.mp (later.front.subset member)
    have leads : ∀ unit' ∈ [unit, there], work.store.Leads (Staged.ofUnit directory unit').staged
        (place (Staged.ofUnit directory unit').staged) := by
      simpa using ⟨leadsHere, leadsLater _ member⟩
    have pair : SourceUnit.Separate [unit, there] := by
      refine ⟨fun unit' known => separate.nameable unit' ?_, ?_⟩
      · rcases List.mem_pair.mp known with rfl | rfl
        · simp
        · exact List.mem_cons_of_mem _ inRest
      · have different := (List.nodup_cons.mp separate.distinct).1
        have different : unit.module ≠ there.module := fun equal =>
          different (List.mem_map.mpr ⟨there, inRest, equal.symm⟩)
        simpa using different
    have distinct := (Staged.apart_ofUnits places pair leads).staged
    simp only [List.map_cons, List.map_nil, List.nodup_cons, List.mem_singleton] at distinct
    exact distinct.1 same.symm

end Work

end TreeSchema
