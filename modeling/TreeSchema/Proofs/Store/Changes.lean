import TreeSchema.Proofs.Store.Paths

/-!
What a call to the file system changes. Files come and go and directories stay, so a text leads to
the same path before a call and after it.
-/

namespace TreeSchema.Store

variable {store before after later : Store} {text source target directory name : String}
  {path other here : Path} {entry : Entry} {paths wider : List Path}

/-! ### Following steps -/

theorem walk_append (store : Store) (here : Path) (first second : List String) :
    store.walk here (first ++ second) =
      (store.walk here first).bind fun path => store.walk path second := by
  induction first generalizing here with
  | nil => rfl
  | cons step rest ih =>
    rw [List.cons_append, walk, walk]
    split
    · rfl
    · rfl
    · rfl
    · split
      · exact ih _
      · split
        · exact ih _
        · split
          · rfl
          · exact ih _

theorem directory_of_walk_cons {step : String} {rest : List String}
    (walked : store.walk here (step :: rest) = .ok path) : store.get? here = some .directory := by
  rw [walk] at walked
  split at walked
  · cases walked
  · cases walked
  · cases walked
  · assumption

theorem walk_cons_of_directory (found : store.get? here = some .directory) (step : String)
    (rest : List String) :
    store.walk here (step :: rest) =
      if step = "." then store.walk here rest
      else if step = ".." then store.walk here.dropLast rest
      else if step.utf8ByteSize > maxName then .error .nameTooLong
      else store.walk (here ++ [step]) rest := by
  rw [walk, found]

theorem walk_mono (grow : ∀ path, before.get? path = some .directory →
    after.get? path = some .directory) {steps : List String}
    (walked : before.walk here steps = .ok path) : after.walk here steps = .ok path := by
  induction steps generalizing here with
  | nil => exact walked
  | cons step rest ih =>
    have found := directory_of_walk_cons walked
    rw [walk_cons_of_directory found] at walked
    rw [walk_cons_of_directory (grow here found)]
    split
    next stays =>
      rw [if_pos stays] at walked
      exact ih walked
    next moves =>
      rw [if_neg moves] at walked
      split
      next up =>
        rw [if_pos up] at walked
        exact ih walked
      next down =>
        rw [if_neg down] at walked
        split
        next long =>
          rw [if_pos long] at walked
          cases walked
        next short =>
          rw [if_neg short] at walked
          exact ih walked

theorem walk_name_iff (h : IsName name) :
    store.walk here [name] = .ok path ↔
      store.get? here = some .directory ∧ name.utf8ByteSize ≤ maxName ∧ path = here ++ [name] := by
  constructor
  · intro walked
    have found := directory_of_walk_cons walked
    rw [walk_cons_of_directory found, if_neg h.notHere, if_neg h.notAbove] at walked
    split at walked
    · cases walked
    · cases walked
      exact ⟨found, by omega, rfl⟩
  · rintro ⟨found, short, rfl⟩
    rw [walk_cons_of_directory found, if_neg h.notHere, if_neg h.notAbove, if_neg (by omega)]
    rfl

theorem resolve_eq_ok_iff :
    store.resolve text = .ok path ↔
      checkText text = .ok () ∧ text ≠ "" ∧
        store.walk (store.base text) (pathSteps text) = .ok path := by
  unfold resolve
  cases checkText text with
  | error fault => simp
  | ok => by_cases empty : text = "" <;> simp [empty]

theorem resolve_mono (home : after.home = before.home)
    (grow : ∀ path, before.get? path = some .directory → after.get? path = some .directory)
    (resolved : before.resolve text = .ok path) : after.resolve text = .ok path := by
  rw [resolve_eq_ok_iff] at resolved ⊢
  obtain ⟨accepted, nonempty, walked⟩ := resolved
  refine ⟨accepted, nonempty, ?_⟩
  have same : after.base text = before.base text := by rw [base, base, home]
  rw [same]
  exact walk_mono grow walked

/-- A joined name leads into the directory that the first text leads to. -/
theorem resolve_joinPath_iff (h : IsName name) :
    store.resolve (joinPath directory name) = .ok path ↔
      checkText (joinPath directory name) = .ok () ∧ name.utf8ByteSize ≤ maxName ∧
        ∃ here, store.walk (store.base directory) (pathSteps directory) = .ok here ∧
          store.get? here = some .directory ∧ path = here ++ [name] := by
  rw [resolve_eq_ok_iff, base_joinPath store directory h, pathSteps_joinPath directory h,
    walk_append]
  constructor
  · rintro ⟨accepted, -, walked⟩
    cases reached : store.walk (store.base directory) (pathSteps directory) with
    | error fault =>
      rw [reached] at walked
      cases walked
    | ok here =>
      rw [reached] at walked
      obtain ⟨found, short, rfl⟩ := (walk_name_iff h).mp walked
      exact ⟨accepted, short, here, rfl, found, rfl⟩
  · rintro ⟨accepted, short, here, reached, found, rfl⟩
    refine ⟨accepted, joinPath_ne_empty directory h, ?_⟩
    rw [reached]
    exact (walk_name_iff h).mpr ⟨found, short, rfl⟩

/-! ### Changes -/

/-- Something other than a directory is at the path. -/
def Occupied (store : Store) (path : Path) : Prop :=
  ∃ entry, store.get? path = some entry ∧ entry ≠ .directory

theorem Occupied.ne_directory (h : store.Occupied path) : store.get? path ≠ some .directory := by
  obtain ⟨entry, found, file⟩ := h
  rw [found]
  exact fun same => file (Option.some.inj same)

theorem Occupied.of_same (h : before.Occupied path) (same : after.get? path = before.get? path) :
    after.Occupied path := by
  obtain ⟨entry, found, file⟩ := h
  exact ⟨entry, same.trans found, file⟩

theorem ne_nil_of_ne_directory (h : store.get? path ≠ some .directory) : path ≠ [] := by
  rintro rfl
  exact h rfl

/-- Nothing but these paths differs between two stores, and the directories are the same. -/
structure ChangedAt (paths : List Path) (before after : Store) : Prop where
  home : after.home = before.home
  same : ∀ path, path ∉ paths → after.get? path = before.get? path
  directory : ∀ path, after.get? path = some .directory ↔ before.get? path = some .directory

theorem ChangedAt.refl (paths : List Path) (store : Store) : ChangedAt paths store store :=
  ⟨rfl, fun _ _ => rfl, fun _ => Iff.rfl⟩

theorem ChangedAt.trans (first : ChangedAt paths before after)
    (second : ChangedAt paths after later) :
    ChangedAt paths before later where
  home := second.home.trans first.home
  same path h := (second.same path h).trans (first.same path h)
  directory path := (second.directory path).trans (first.directory path)

theorem ChangedAt.mono (h : ChangedAt paths before after) (sub : paths ⊆ wider) :
    ChangedAt wider before after :=
  ⟨h.home, fun path outside => h.same path fun inside => outside (sub inside), h.directory⟩

theorem ChangedAt.resolve (h : ChangedAt paths before after)
    (resolved : before.resolve text = .ok path) : after.resolve text = .ok path :=
  resolve_mono h.home (fun path => (h.directory path).mpr) resolved

theorem ChangedAt.resolve_iff (h : ChangedAt paths before after) :
    after.resolve text = .ok path ↔ before.resolve text = .ok path :=
  ⟨resolve_mono h.home.symm fun path => (h.directory path).mp, h.resolve⟩

theorem changedAt_put (free : store.get? path ≠ some .directory) (file : entry ≠ .directory) :
    ChangedAt [path] store (store.put path entry) where
  home := rfl
  same other outside := by
    rw [get?_put _ _ _ (ne_nil_of_ne_directory free), if_neg (by simpa using outside)]
  directory other := by
    rw [get?_put _ _ _ (ne_nil_of_ne_directory free)]
    split
    next same => simp [same, free, file]
    next => rfl

theorem changedAt_erase (free : store.get? path ≠ some .directory) :
    ChangedAt [path] store (store.erase path) where
  home := rfl
  same other outside := by
    rw [get?_erase _ _ (ne_nil_of_ne_directory free), if_neg (by simpa using outside)]
  directory other := by
    rw [get?_erase _ _ (ne_nil_of_ne_directory free)]
    split
    next same => simp [same, free]
    next => rfl

/-! ### Calls on files -/

/-- The text leads to the path, also if a file is there. -/
structure Leads (store : Store) (text : String) (path : Path) : Prop where
  resolve : store.resolve text = .ok path
  noSlash : endsInSlash text = false

theorem ChangedAt.leads (h : ChangedAt paths before after) (leads : before.Leads text path) :
    after.Leads text path :=
  ⟨h.resolve leads.resolve, leads.noSlash⟩

theorem Leads.checkText (h : store.Leads text path) : checkText text = .ok () :=
  (resolve_eq_ok_iff.mp h.resolve).1

theorem Leads.isFile (h : store.Leads text path) :
    store.isFile text = true ↔ ∃ content, store.get? path = some (.file content) := by
  unfold Store.isFile lookup?
  rw [h.resolve]
  cases found : store.get? path with
  | none => simp [found]
  | some entry => cases entry <;> simp [found, h.noSlash]

theorem write_eq_ok {content : ByteArray} (noSlash : endsInSlash text = false)
    (written : store.write text content = .ok after) :
    ∃ path, store.Leads text path ∧ store.get? path ≠ some .directory ∧
      (after = store.put path (.file content) ∨ store.get? path = some .null ∧ after = store) := by
  unfold write at written
  cases resolved : store.resolve text with
  | error fault =>
    rw [resolved] at written
    cases written
  | ok path =>
    refine ⟨path, ⟨resolved, noSlash⟩, ?_⟩
    rw [resolved] at written
    simp only [noSlash, Bool.false_eq_true, if_false] at written
    cases found : store.get? path with
    | none =>
      rw [found] at written
      cases written
      exact ⟨by simp, .inl rfl⟩
    | some entry =>
      rw [found] at written
      cases entry with
      | directory => cases written
      | file old =>
        cases written
        exact ⟨by simp, .inl rfl⟩
      | null =>
        cases written
        exact ⟨by simp, .inr ⟨rfl, rfl⟩⟩

theorem remove_eq (h : store.Leads text path) (occupied : store.Occupied path) :
    store.remove text = .ok (store.erase path) := by
  obtain ⟨entry, found, file⟩ := occupied
  unfold remove
  rw [h.resolve]
  simp only [found, h.noSlash, Bool.false_eq_true, if_false]
  cases entry with
  | directory => exact absurd rfl file
  | file | null => rfl

theorem rename_eq (hs : store.Leads source path) (ht : store.Leads target other)
    (found : store.get? path = some entry) (file : entry ≠ .directory)
    (free : store.get? other ≠ some .directory) :
    store.rename source target = .ok ((store.erase path).put other entry) := by
  unfold rename
  rw [hs.checkText, ht.checkText, hs.resolve, ht.resolve]
  simp only [found, hs.noSlash, ht.noSlash, Bool.or_self, Bool.false_eq_true, if_false]
  cases entry with
  | directory => exact absurd rfl file
  | file | null =>
    cases there : store.get? other with
    | none => rfl
    | some occupant =>
      cases occupant with
      | directory => exact absurd there free
      | file | null => rfl

theorem rename_onto_directory (hs : store.Leads source path) (ht : store.Leads target other)
    (occupied : store.Occupied path) (taken : store.get? other = some .directory) :
    store.rename source target = .error .isDirectory := by
  obtain ⟨entry, found, file⟩ := occupied
  unfold rename
  rw [hs.checkText, ht.checkText, hs.resolve, ht.resolve]
  simp only [found, taken]

theorem changedAt_move (left : store.get? path ≠ some .directory) (file : entry ≠ .directory)
    (free : store.get? other ≠ some .directory) :
    ChangedAt [path, other] store ((store.erase path).put other entry) := by
  have erased := changedAt_erase left
  have stillFree : (store.erase path).get? other ≠ some .directory :=
    fun taken => free ((erased.directory other).mp taken)
  exact (erased.mono (by simp)).trans ((changedAt_put stillFree file).mono (by simp))

/-- A file moves to any path that no directory is at. -/
theorem rename_spec (hs : store.Leads source path) (ht : store.Leads target other)
    (found : store.get? path = some entry) (file : entry ≠ .directory)
    (free : store.get? other ≠ some .directory) :
    ∃ after, store.rename source target = .ok after ∧ ChangedAt [path, other] store after ∧
      ∀ here, after.get? here =
        if here = other then some entry else if here = path then none else store.get? here := by
  have left : store.get? path ≠ some .directory := Occupied.ne_directory ⟨entry, found, file⟩
  refine ⟨_, rename_eq hs ht found file free, changedAt_move left file free, fun here => ?_⟩
  rw [get?_put _ _ _ (ne_nil_of_ne_directory free), get?_erase _ _ (ne_nil_of_ne_directory left)]

theorem remove_spec (h : store.Leads text path) (occupied : store.Occupied path) :
    ∃ after, store.remove text = .ok after ∧ ChangedAt [path] store after ∧
      ∀ here, after.get? here = if here = path then none else store.get? here :=
  ⟨_, remove_eq h occupied, changedAt_erase occupied.ne_directory,
    fun here => get?_erase _ here (ne_nil_of_ne_directory occupied.ne_directory)⟩

end TreeSchema.Store
