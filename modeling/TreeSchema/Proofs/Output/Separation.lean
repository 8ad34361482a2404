import TreeSchema.Proofs.Output.Bystanders

/-!
Units side by side. Each file name of a unit is one step of a path, and no other unit has it. So
whatever is done for a unit, and in whatever state the store is, what is at the paths of the other
units stays as it is.
-/

namespace TreeSchema

/-! ### Calls that pass a path by -/

namespace Store

variable {store after : Store} {text source target : String} {path own other : Path}

/-- The text leads neither to the path nor to anything above it. -/
def Spares (store : Store) (text : String) (path : Path) : Prop :=
  ∀ own, store.resolve text = .ok own → isUnder own path = false

theorem isUnder_self (path : Path) : isUnder path path = true :=
  List.isPrefixOf_iff_prefix.mpr List.prefix_rfl

theorem Spares.ne (spares : store.Spares text path) (resolved : store.resolve text = .ok own) :
    path ≠ own := by
  rintro rfl
  exact absurd (spares path resolved) (by simp [isUnder_self])

theorem Spares.changed {touched : List Path} (spares : store.Spares text path)
    (changed : ChangedAt touched store after) : after.Spares text path :=
  fun own resolved => spares own (changed.resolve_iff.mp resolved)

theorem write_spares {content : ByteArray} (noSlash : endsInSlash text = false)
    (written : store.write text content = .ok after) (spares : store.Spares text path) :
    after.get? path = store.get? path := by
  obtain ⟨own, leads, changed, -⟩ := write_spec noSlash written
  exact changed.same path (by simpa using spares.ne leads.resolve)

theorem remove_spares (removed : store.remove text = .ok after) (spares : store.Spares text path) :
    after.get? path = store.get? path := by
  unfold remove at removed
  cases resolved : store.resolve text with
  | error fault => simp [resolved] at removed
  | ok own =>
    cases found : store.get? own with
    | none => simp [resolved, found] at removed
    | some entry =>
      have free : entry ≠ .directory := by
        rintro rfl
        simp [resolved, found] at removed
      have erased : after = store.erase own := by
        rw [resolved] at removed
        cases entry with
        | directory => exact absurd rfl free
        | file | null =>
          simp only [found] at removed
          split at removed
          · cases removed
          · exact (Except.ok.inj removed).symm
      rw [erased]
      exact (changedAt_erase (by simp [found, free])).same path (by simpa using spares.ne resolved)

/-- What moving a tree changes is under its old place or its new one. -/
theorem get?_moveTree (fromSource : isUnder own path = false)
    (fromTarget : isUnder other path = false) :
    (store.moveTree own other).get? path = store.get? path := by
  have under (rest : Path) : isUnder other (other ++ rest) = true :=
    List.isPrefixOf_iff_prefix.mpr (List.prefix_append other rest)
  have entries (list : List (Path × Entry)) :
      ((list.filter fun entry => !isUnder other entry.1).map fun entry =>
        (if isUnder own entry.1 then other ++ entry.1.drop own.length else entry.1,
          entry.2)).lookup path =
        list.lookup path := by
    induction list with
    | nil => rfl
    | cons entry rest ih =>
      obtain ⟨key, value⟩ := entry
      rw [lookup_cons_eq_ite]
      by_cases dropped : isUnder other key = true
      · have different : path ≠ key := by
          rintro rfl
          simp [fromTarget] at dropped
        rw [List.filter_cons_of_neg (by simp [dropped]), ih, if_neg different]
      · rw [List.filter_cons_of_pos (by simp [dropped]), List.map_cons, lookup_cons_eq_ite, ih]
        by_cases moved : isUnder own key = true
        · have left : path ≠ key := by
            rintro rfl
            simp [fromSource] at moved
          have arrived : path ≠ other ++ key.drop own.length := by
            rintro rfl
            simp [under] at fromTarget
          rw [if_pos moved, if_neg arrived, if_neg left]
        · rw [if_neg moved]
  unfold get? moveTree
  split
  next => rfl
  next => exact entries store.entries

/-- A call that moves something moves a directory with what is under it, or a file. -/
theorem rename_eq_ok (renamed : store.rename source target = .ok after) :
    ∃ own other, store.resolve source = .ok own ∧ store.resolve target = .ok other ∧
      (store.get? own = some .directory ∧ (after = store ∨ after = store.moveTree own other) ∨
        store.get? own ≠ some .directory ∧ ChangedAt [own, other] store after) := by
  unfold rename at renamed
  split at renamed
  · cases renamed
  · cases renamed
  split at renamed
  · cases renamed
  rename_i own fromSource
  split at renamed
  · cases renamed
  rename_i entry found
  split at renamed
  · cases renamed
  rename_i other fromTarget
  refine ⟨own, other, fromSource, fromTarget, ?_⟩
  split at renamed
  · cases renamed
  · cases renamed
  · -- A directory moves, unless it would move onto itself, into itself or onto others.
    split at renamed
    · exact .inl ⟨found, .inl (Except.ok.inj renamed).symm⟩
    split at renamed
    · cases renamed
    split at renamed
    · cases renamed
    · exact .inl ⟨found, .inr (Except.ok.inj renamed).symm⟩
  · cases renamed
  rename_i file free _ _
  split at renamed
  · cases renamed
  obtain rfl := Except.ok.inj renamed
  have left : store.get? own ≠ some .directory := by simpa [found] using file
  exact .inr ⟨left, changedAt_move left file free⟩

theorem rename_spares (renamed : store.rename source target = .ok after)
    (fromSource : store.Spares source path) (fromTarget : store.Spares target path) :
    after.get? path = store.get? path := by
  obtain ⟨own, other, hs, ht, ⟨-, rfl | rfl⟩ | ⟨-, changed⟩⟩ := rename_eq_ok renamed
  · rfl
  · exact get?_moveTree (fromSource own hs) (fromTarget other ht)
  · exact changed.same path (by simpa using ⟨fromSource.ne hs, fromTarget.ne ht⟩)

end Store

/-! ### Steps for one unit -/

namespace Staged

def texts (entry : Staged) : List String :=
  [entry.staged, entry.target, entry.backup]

end Staged

namespace Work

open Store

variable {work : Work} {entry : Staged} {path : Path} {format? : Option FormatStep}

/-- Whatever is done for the entry, in staging it, in moving it into place with what was there
moved aside, and in cleaning up, leaves what is at the path as it is. -/
structure Spares (work : Work) (entry : Staged) (path : Path) : Prop where
  stage : ∀ format? source, (∀ format ∈ format?, FormatStep.Confined format) →
    (stageEntry format? work entry source).1.store.get? path = work.store.get? path
  replace : (work.replace entry).1.store.get? path = work.store.get? path
  finish : ∀ aside, (work.finish [(entry, aside)]).store.get? path = work.store.get? path
  rollBack : ∀ aside, (work.rollBack [(entry, aside)]).store.get? path = work.store.get? path
  discard : (work.discard [entry]).store.get? path = work.store.get? path

theorem attempt_spares {event : IoFault → Event} {result : Except IoFault Store}
    (spares : ∀ after, result = .ok after → after.get? path = work.store.get? path) :
    (work.attempt event result).store.get? path = work.store.get? path := by
  cases result with
  | error fault => rfl
  | ok after => exact spares after rfl

theorem stageEntry_spares (noSlash : endsInSlash entry.staged = false)
    (spares : work.store.Spares entry.staged path)
    (confined : ∀ format ∈ format?, format.Confined) (source : String) :
    (stageEntry format? work entry source).1.store.get? path = work.store.get? path := by
  unfold stageEntry
  split
  next => rfl
  next store written =>
    have same := write_spares noSlash written spares
    cases format? with
    | none => exact same
    | some format =>
      obtain ⟨own, leads, changed, -⟩ := write_spec noSlash written
      have formatted : (format entry.staged store).1.get? path = store.get? path := by
        refine (confined format rfl).elsewhere _ _ _ fun resolved => ?_
        exact (spares.changed changed).ne resolved rfl
      dsimp only
      split
      next after failure ran =>
        rw [ran] at formatted
        exact formatted.trans same
      next after ran =>
        rw [ran] at formatted
        exact formatted.trans same

theorem replace_spares (staged : work.store.Spares entry.staged path)
    (target : work.store.Spares entry.target path) (backup : work.store.Spares entry.backup path) :
    (work.replace entry).1.store.get? path = work.store.get? path := by
  unfold replace
  split
  next file =>
    split
    next => rfl
    next store renamed =>
      have aside := rename_spares renamed target backup
      -- What is moved aside is a file, so the names lead where they did.
      have changed : ∃ touched, ChangedAt touched work.store store := by
        obtain ⟨own, other, leads, -, ⟨directory, -⟩ | ⟨-, changed⟩⟩ := rename_eq_ok renamed
        · simp [isFile, lookup?, leads, directory] at file
        · exact ⟨_, changed⟩
      obtain ⟨touched, changed⟩ := changed
      split
      next after moved =>
        exact (rename_spares moved (staged.changed changed) (target.changed changed)).trans aside
      next =>
        refine Eq.trans (attempt_spares fun after restored => ?_) aside
        exact rename_spares restored (backup.changed changed) (target.changed changed)
  next =>
    split
    next after moved => exact rename_spares moved staged target
    next => rfl

/-- The step changes nothing at a path that none of the entry's names leads to or above. -/
theorem spares_of_texts (noSlash : endsInSlash entry.staged = false)
    (each : ∀ text ∈ entry.texts, work.store.Spares text path) : work.Spares entry path := by
  have staged := each entry.staged (by simp [Staged.texts])
  have target := each entry.target (by simp [Staged.texts])
  have backup := each entry.backup (by simp [Staged.texts])
  refine ⟨fun _ source confined => stageEntry_spares noSlash staged confined source,
    replace_spares staged target backup, fun aside => ?finish, fun aside => ?rollBack, ?discard⟩
  case finish =>
    cases aside with
    | true => exact attempt_spares fun after removed => remove_spares removed backup
    | false => rfl
  case rollBack =>
    cases aside with
    | true => exact attempt_spares fun after restored => rename_spares restored backup target
    | false => exact attempt_spares fun after removed => remove_spares removed target
  case discard => exact attempt_spares fun after removed => remove_spares removed staged

end Work

/-! ### Units -/

variable {schema : Schema} {index : Index} {unit other : SourceUnit} {units : List SourceUnit}
  {directory name text : String} {store : Store} {path : Path}

namespace SourceUnit

theorem length_flatMap_fileNames (units : List SourceUnit) :
    (units.flatMap fileNames).length = 3 * units.length := by
  induction units with
  | nil => rfl
  | cons unit rest ih =>
    rw [List.flatMap_cons, List.length_append, ih, List.length_cons, fileNames, List.length_map]
    have three : suffixes.length = 3 := rfl
    omega

theorem Separate.isName_of_mem (separate : Separate units)
    (member : name ∈ units.flatMap fileNames) : IsName name ∧ '\x00' ∉ name.toList := by
  obtain ⟨unit, among, named⟩ := List.mem_flatMap.mp member
  obtain ⟨suffix, known, rfl⟩ := List.mem_map.mp named
  have nameable := separate.nameable unit among
  exact ⟨nameable.isName known, nameable.noNul_fileName known⟩

theorem texts_ofUnit : (Staged.ofUnit directory unit).texts =
    unit.fileNames.map (joinPath directory) :=
  rfl

theorem Separate.module_ne (separate : Separate units) (one : unit ∈ units) (two : other ∈ units)
    (different : unit ≠ other) : unit.module ≠ other.module :=
  fun same => different (List.inj_on_of_nodup_map separate.distinct one two same)

/-- Names in one directory lead to different paths of the same length, so none is above another. -/
theorem Separate.spares (separate : Separate units) (one : unit ∈ units) (two : other ∈ units)
    (different : unit ≠ other) (theirs : text ∈ (Staged.ofUnit directory other).texts)
    (leads : store.resolve text = .ok path) {own : String}
    (mine : own ∈ (Staged.ofUnit directory unit).texts) : store.Spares own path := by
  rw [texts_ofUnit] at theirs mine
  obtain ⟨_, named, rfl⟩ := List.mem_map.mp theirs
  obtain ⟨ending, knownToo, rfl⟩ := List.mem_map.mp named
  obtain ⟨_, named, rfl⟩ := List.mem_map.mp mine
  obtain ⟨suffix, known, rfl⟩ := List.mem_map.mp named
  have nameable := separate.nameable unit one
  have nameableToo := separate.nameable other two
  intro place resolved
  obtain ⟨-, -, here, reached, -, rfl⟩ :=
    (Store.resolve_joinPath_iff (nameable.isName known)).mp resolved
  obtain ⟨-, -, there, reachedToo, -, rfl⟩ :=
    (Store.resolve_joinPath_iff (nameableToo.isName knownToo)).mp leads
  obtain rfl := Except.ok.inj (reached.symm.trans reachedToo)
  rw [← Bool.not_eq_true, Store.isUnder, List.isPrefixOf_iff_prefix]
  intro above
  have same := above.eq_of_length (by simp)
  have names : unit.module ++ suffix = other.module ++ ending := by simpa using same
  exact separate.module_ne one two different
    (nameable.eq_of_append_eq nameableToo known knownToo names).1

end SourceUnit

/-- The units of an accepted schema have three file names each, all of them different, and each of
them one step of a path. Whatever is done for one unit, in any directory and any state of the store,
leaves what the names of another unit lead to as it is. -/
theorem Schema.fileNames_apart (checked : schema.check = .ok index) :
    ∃ units, schema.units = .ok units ∧
      (units.flatMap SourceUnit.fileNames).length = 3 * schema.categories.length ∧
      (units.flatMap SourceUnit.fileNames).Nodup ∧
      (∀ name ∈ units.flatMap SourceUnit.fileNames, IsName name ∧ '\x00' ∉ name.toList) ∧
      ∀ unit ∈ units, ∀ other ∈ units, unit ≠ other → ∀ (directory : String) (work : Work),
        ∀ text ∈ (Staged.ofUnit directory other).texts, ∀ path,
          work.store.resolve text = .ok path →
            work.Spares (Staged.ofUnit directory unit) path := by
  obtain ⟨units, made, order⟩ := (units_of_check schema).1 index checked
  have separate := separate_of_units made
  have length : units.length = schema.categories.length := by
    simpa using congrArg List.length order
  refine ⟨units, made, ?_, separate.fileNames_nodup, fun name => separate.isName_of_mem, ?_⟩
  · rw [SourceUnit.length_flatMap_fileNames, length]
  · intro unit one other two different directory work text theirs path leads
    have staged : IsName (unit.module ++ ".tmp.rs") :=
      (separate.nameable unit one).isName (by simp [SourceUnit.suffixes])
    exact Work.spares_of_texts (endsInSlash_joinPath directory staged) fun own mine =>
      separate.spares one two different theirs leads mine

/-- The second module looks like the name of the first unit's file when that is moved aside. -/
theorem Schema.fileNames_apart_of_two :
    let leaf (name tag : String) : Node := ⟨name, tag, [], .custom []⟩
    let schema : Schema := ⟨{}, [⟨"Expr", none, [leaf "LeafExpr" "Leaf"]⟩,
      ⟨"Stmt", some "expr_old", [leaf "LeafStmt" "Leaf"]⟩]⟩
    let store : Store :=
      ((Store.empty.put ["tmp", "work", "out"] .directory).put
        ["tmp", "work", "out", "expr.rs"] (.file "// previous".toUTF8)).put
        ["tmp", "work", "out", "expr_old.rs"] (.file "// other".toUTF8)
    ∃ index first second, schema.check = .ok index ∧ schema.units = .ok [first, second] ∧
      [first, second].flatMap SourceUnit.fileNames = ["expr.tmp.rs", "expr.rs", "expr.old.rs",
        "expr_old.tmp.rs", "expr_old.rs", "expr_old.old.rs"] ∧
      ([first, second].flatMap SourceUnit.fileNames).Nodup ∧
      (Work.start store).Spares (Staged.ofUnit "out" first)
        ["tmp", "work", "out", "expr_old.rs"] := by
  intro leaf schema store
  have checked : schema.check = .ok ⟨[("LeafStmt", .record 1 0), ("Stmt", .union 1),
      ("LeafExpr", .record 0 0), ("Expr", .union 0)]⟩ :=
    check_eq_ok_of_flat (by decide +kernel) (by decide +kernel) (by decide +kernel)
  obtain ⟨units, made, -, distinct, -, apart⟩ := fileNames_apart checked
  have modules : units.map (·.module) = ["expr", "expr_old"] :=
    (map_module_of_units made).trans (by decide +kernel)
  obtain ⟨first, rest, rfl, one, modules⟩ := List.map_eq_cons_iff.mp modules
  obtain ⟨second, rest, rfl, two, modules⟩ := List.map_eq_cons_iff.mp modules
  obtain rfl := List.map_eq_nil_iff.mp modules
  have different : first ≠ second := by
    rintro rfl
    simp [one] at two
  have leads : store.resolve (Staged.ofUnit "out" second).target =
      .ok ["tmp", "work", "out", "expr_old.rs"] := by
    rw [Staged.ofUnit, SourceUnit.fileName, two]
    decide +kernel
  refine ⟨_, first, second, checked, made, ?_, distinct, ?_⟩
  · simp [SourceUnit.fileNames, SourceUnit.suffixes, one, two]
  · exact apart first (by simp) second (by simp) different "out" (.start store) _
      (by simp [Staged.texts]) _ leads

end TreeSchema
