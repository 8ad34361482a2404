import TreeSchema.Proofs.Store.Changes

/-!
Making a directory with the ones above it. Whether it succeeds or fails, all that changes is that
some directories on the way are there that were not there before.
-/

namespace TreeSchema.Store

variable {store before after later : Store} {base here path : Path} {steps wider : List String}

/-- Steps from the first on lead to the path. -/
def OnWay (store : Store) (base : Path) (steps : List String) (path : Path) : Prop :=
  ∃ front, front <+: steps ∧ store.walk base front = .ok path

theorem OnWay.cons (base : Path) {step : String} {rest : List String}
    (enter : ∀ front, store.walk here (step :: front) = store.walk base front)
    (h : store.OnWay base rest path) : store.OnWay here (step :: rest) path := by
  obtain ⟨front, lead, walked⟩ := h
  exact ⟨step :: front, List.cons_prefix_cons.mpr ⟨rfl, lead⟩, (enter front).trans walked⟩

/-- Leaving out steps that stay where they are leads nowhere else. -/
theorem onWay_of_filter (h : store.OnWay here (steps.filter (· != ".")) path) :
    store.OnWay here steps path := by
  induction steps generalizing here with
  | nil => exact h
  | cons step rest ih =>
    obtain ⟨front, lead, walked⟩ := h
    cases front with
    | nil => exact ⟨[], List.nil_prefix, walked⟩
    | cons first others =>
      have found := directory_of_walk_cons walked
      by_cases stays : step = "."
      · subst stays
        rw [List.filter_cons_of_neg (by simp)] at lead
        refine OnWay.cons here (fun front => ?_) (ih ⟨_, lead, walked⟩)
        rw [walk_cons_of_directory found, if_pos rfl]
      · rw [List.filter_cons_of_pos (by simpa using stays), List.cons_prefix_cons] at lead
        obtain ⟨rfl, lead⟩ := lead
        rw [walk_cons_of_directory found, if_neg stays] at walked
        by_cases up : first = ".."
        · rw [if_pos up] at walked
          refine OnWay.cons here.dropLast (fun front => ?_) (ih ⟨_, lead, walked⟩)
          rw [walk_cons_of_directory found, if_neg stays, if_pos up]
        · rw [if_neg up] at walked
          by_cases long : first.utf8ByteSize > maxName
          · rw [if_pos long] at walked
            cases walked
          · rw [if_neg long] at walked
            refine OnWay.cons (here ++ [first]) (fun front => ?_) (ih ⟨_, lead, walked⟩)
            rw [walk_cons_of_directory found, if_neg stays, if_neg up, if_neg long]

theorem onWay_of_plainSteps {text : String} (h : store.OnWay here (plainSteps text) path) :
    store.OnWay here (pathSteps text) path := by
  unfold plainSteps at h
  cases all : pathSteps text with
  | nil => simpa [all] using h
  | cons step rest =>
    rw [all] at h
    simp only at h
    split at h
    · exact onWay_of_filter h
    · obtain ⟨front, lead, walked⟩ := h
      cases front with
      | nil => exact ⟨[], List.nil_prefix, walked⟩
      | cons first others =>
        obtain ⟨rfl, leadRest⟩ := List.cons_prefix_cons.mp lead
        have split := walk_append store here [first] others
        rw [List.singleton_append, walked] at split
        cases entered : store.walk here [first] with
        | error fault =>
          rw [entered] at split
          cases split
        | ok inner =>
          rw [entered] at split
          refine OnWay.cons inner (fun front => ?_)
            (onWay_of_filter ⟨others, leadRest, split.symm⟩)
          rw [← List.singleton_append, walk_append, entered]
          rfl

/-- A directory on the way that was not there before. -/
structure NewOnWay (base : Path) (steps : List String) (before after : Store) (path : Path) :
    Prop where
  absent : before.get? path = none
  made : after.get? path = some .directory
  onWay : after.OnWay base steps path

/-- Nothing differs but new directories on the way. -/
structure Grown (base : Path) (steps : List String) (before after : Store) : Prop where
  home : after.home = before.home
  each : ∀ path, after.get? path = before.get? path ∨ NewOnWay base steps before after path

theorem Grown.refl (base : Path) (steps : List String) (store : Store) :
    Grown base steps store store :=
  ⟨rfl, fun _ => .inl rfl⟩

theorem Grown.directory (h : Grown base steps before after)
    (found : before.get? path = some .directory) : after.get? path = some .directory := by
  rcases h.each path with same | new
  · rw [same, found]
  · exact new.made

/-- No file is new, and none is changed. -/
theorem Grown.get?_eq_file_iff {content : ByteArray} (h : Grown base steps before after) :
    after.get? path = some (.file content) ↔ before.get? path = some (.file content) := by
  rcases h.each path with same | new
  · rw [same]
  · simp [new.absent, new.made]

theorem OnWay.imp (h : before.OnWay base steps path)
    (walks : ∀ {front}, before.walk base front = .ok path → after.walk base front = .ok path) :
    after.OnWay base steps path := by
  obtain ⟨front, lead, walked⟩ := h
  exact ⟨front, lead, walks walked⟩

theorem Grown.trans (first : Grown base steps before after)
    (second : Grown base steps after later) :
    Grown base steps before later := by
  refine ⟨second.home.trans first.home, fun path => ?_⟩
  rcases second.each path with same | new
  · rcases first.each path with sameFirst | newFirst
    · exact .inl (same.trans sameFirst)
    · refine .inr ⟨newFirst.absent, same.trans newFirst.made, newFirst.onWay.imp ?_⟩
      exact walk_mono fun _ => second.directory
  · rcases first.each path with sameFirst | newFirst
    · exact .inr ⟨sameFirst.symm.trans new.absent, new.made, new.onWay⟩
    · exact absurd (newFirst.made.symm.trans new.absent) (by simp)

theorem Grown.imp (h : Grown base steps before after)
    (way : ∀ path, after.OnWay base steps path → after.OnWay base wider path) :
    Grown base wider before after :=
  ⟨h.home, fun path => (h.each path).imp id fun new => ⟨new.absent, new.made, way path new.onWay⟩⟩

theorem Grown.mono (h : Grown base steps before after) (lead : steps <+: wider) :
    Grown base wider before after :=
  h.imp fun _ ⟨front, inner, walked⟩ => ⟨front, inner.trans lead, walked⟩

/-- What is as it was after the directories were made is as it was before, or one of them. -/
theorem Grown.each_of_same (h : Grown base steps before after)
    (directories : ∀ path, after.get? path = some .directory → later.get? path = some .directory)
    (same : later.get? path = after.get? path) :
    later.get? path = before.get? path ∨ NewOnWay base steps before later path := by
  refine (h.each path).imp same.trans fun new => ?_
  exact ⟨new.absent, directories path new.made, new.onWay.imp (walk_mono directories)⟩

/-! ### The calls -/

theorem makeDirectoryAt_grown (made : store.makeDirectoryAt base steps = .ok after) :
    Grown base steps store after := by
  unfold makeDirectoryAt at made
  cases walked : store.walk base steps with
  | error fault =>
    rw [walked] at made
    cases made
  | ok path =>
    cases absent : store.get? path with
    | some entry =>
      simp only [walked, absent] at made
      cases made
    | none =>
      simp only [walked, absent] at made
      cases made
      have free : store.get? path ≠ some .directory := by simp [absent]
      have nonempty := ne_nil_of_ne_directory free
      refine ⟨rfl, fun other => ?_⟩
      by_cases same : other = path
      · subst same
        have made : (store.put other .directory).get? other = some .directory := by
          rw [get?_put _ _ _ nonempty, if_pos rfl]
        refine .inr ⟨absent, made, steps, List.prefix_rfl, ?_⟩
        refine walk_mono (fun inner found => ?_) walked
        rw [get?_put _ _ _ nonempty]
        split
        · rfl
        · exact found
      · exact .inl (by rw [get?_put _ _ _ nonempty, if_neg same])

theorem ensureDirectory_grown {above : Store → Store × Option IoFault}
    (grown : ∀ store, Grown base steps store (above store).1) :
    Grown base steps store (store.ensureDirectory base steps above).1 := by
  unfold ensureDirectory
  cases first : store.makeDirectoryAt base steps with
  | ok made => exact makeDirectoryAt_grown first
  | error fault =>
    cases fault with
    | notFound =>
      have lower := grown store
      rcases result : above store with ⟨inner, _ | fault⟩
      · rw [result] at lower
        cases second : inner.makeDirectoryAt base steps with
        | ok made => simpa [result, second] using lower.trans (makeDirectoryAt_grown second)
        | error fault => simpa [result, second] using lower
      · rw [result] at lower
        simpa [result] using lower
    | _ => exact Grown.refl base steps store

theorem makeDirectoriesAt_grown (store : Store) (base : Path) (reversed : List String) :
    Grown base reversed.reverse store (store.makeDirectoriesAt base reversed).1 := by
  induction reversed generalizing store with
  | nil => exact Grown.refl _ _ _
  | cons step above ih =>
    refine ensureDirectory_grown fun inner => (ih inner).mono ?_
    rw [List.reverse_cons]
    exact List.prefix_append _ _

theorem makeDirectories_grown (store : Store) (text : String) :
    Grown (store.base text) (pathSteps text) store (store.makeDirectories text).1 := by
  unfold makeDirectories
  cases checkText text with
  | error fault => exact Grown.refl _ _ _
  | ok =>
    simp only
    split
    · exact Grown.refl _ _ _
    · refine ensureDirectory_grown fun inner => ?_
      have above := makeDirectoriesAt_grown inner (store.base text) (plainSteps text).reverse.tail
      have front : (plainSteps text).reverse.tail.reverse = (plainSteps text).dropLast := by
        rw [List.tail_reverse, List.reverse_reverse]
      rw [front] at above
      exact (above.mono (List.dropLast_prefix _)).imp fun _ => onWay_of_plainSteps

theorem grown_of_makeDirectories {before after : Store} {text : String} {fault? : Option IoFault}
    (made : before.makeDirectories text = (after, fault?)) :
    Grown (before.base text) (pathSteps text) before after := by
  have grown := makeDirectories_grown before text
  rwa [made] at grown

end TreeSchema.Store
