import TreeSchema.Store.Calls

/-!
Texts of paths. A name that is joined to a directory adds one step to the steps of the directory,
and whether the text is accepted depends on its characters and its length only.
-/

namespace TreeSchema

/-- A text that is one step, and leads into a directory. -/
structure IsName (name : String) : Prop where
  nonempty : name ≠ ""
  noSlash : '/' ∉ name.toList
  notHere : name ≠ "."
  notAbove : name ≠ ".."

theorem IsName.toList_ne_nil {name : String} (h : IsName name) : name.toList ≠ [] :=
  fun empty => h.nonempty (String.toList_eq_nil_iff.mp empty)

/-! ### Steps -/

theorem pathSteps.go_append_slash (part first second : List Char) :
    pathSteps.go part (first ++ '/' :: second) =
      pathSteps.go part first ++ pathSteps.go [] second := by
  induction first generalizing part with
  | nil => simp [pathSteps.go]
  | cons c rest ih =>
    simp only [List.cons_append, pathSteps.go]
    split
    · rw [ih, List.cons_append]
    · exact ih _

theorem pathSteps.go_of_noSlash (part : List Char) {text : List Char} (h : '/' ∉ text) :
    pathSteps.go part text = [String.ofList (part ++ text)] := by
  induction text generalizing part with
  | nil => simp [pathSteps.go]
  | cons c rest ih =>
    simp only [List.mem_cons, not_or] at h
    rw [pathSteps.go, if_neg (Ne.symm h.1), ih _ h.2]
    simp

theorem pathSteps_append_slash {text : String} {first second : List Char}
    (h : text.toList = first ++ '/' :: second) :
    pathSteps text = pathSteps (String.ofList first) ++ pathSteps (String.ofList second) := by
  simp only [pathSteps, h, String.toList_ofList, pathSteps.go_append_slash, List.filter_append]

theorem pathSteps_nil : pathSteps (String.ofList []) = [] := by
  simp [pathSteps, pathSteps.go]

theorem pathSteps_name {name : String} (h : IsName name) : pathSteps name = [name] := by
  have nonempty : name.isEmpty = false := by
    simpa [← Bool.not_eq_true, String.isEmpty_iff] using h.nonempty
  simp [pathSteps, pathSteps.go_of_noSlash [] h.noSlash, nonempty]

/-! ### Joining -/

/-- What stands before a name that is joined to a directory. -/
def joinLead (directory : String) : String :=
  if directory.isEmpty then "" else if endsInSlash directory then directory else directory ++ "/"

theorem startsAtRoot_name {name : String} (h : IsName name) : startsAtRoot name = false := by
  cases chars : name.toList with
  | nil => simp [startsAtRoot, chars]
  | cons c rest =>
    have different : c ≠ '/' := fun same => h.noSlash (by simp [chars, same])
    simpa [startsAtRoot, chars] using different

theorem joinPath_eq (directory : String) {name : String} (h : IsName name) :
    joinPath directory name = joinLead directory ++ name := by
  unfold joinPath joinLead
  rw [startsAtRoot_name h]
  split <;> split <;> simp_all

theorem pathSteps_joinPath (directory : String) {name : String} (h : IsName name) :
    pathSteps (joinPath directory name) = pathSteps directory ++ [name] := by
  rw [joinPath_eq directory h, joinLead]
  split
  next empty =>
    rw [String.isEmpty_iff.mp empty, String.empty_append, pathSteps_name h]
    rfl
  next =>
    split
    next slash =>
      obtain ⟨front, chars⟩ : ∃ front, directory.toList = front ++ ['/'] :=
        List.getLast?_eq_some_iff.mp (by simpa [endsInSlash] using slash)
      have joined : (directory ++ name).toList = front ++ '/' :: name.toList := by
        simp [String.toList_append, chars]
      rw [pathSteps_append_slash joined, pathSteps_append_slash chars, String.ofList_toList,
        pathSteps_name h, pathSteps_nil, List.append_nil]
    next =>
      have joined : (directory ++ "/" ++ name).toList = directory.toList ++ '/' :: name.toList := by
        simp [String.toList_append]
      rw [pathSteps_append_slash joined, String.ofList_toList, String.ofList_toList,
        pathSteps_name h]

theorem joinPath_ne_empty (directory : String) {name : String} (h : IsName name) :
    joinPath directory name ≠ "" := by
  intro empty
  rw [joinPath_eq directory h, ← String.toList_eq_nil_iff, String.toList_append] at empty
  exact h.toList_ne_nil (List.append_eq_nil_iff.mp empty).2

theorem endsInSlash_joinPath (directory : String) {name : String} (h : IsName name) :
    endsInSlash (joinPath directory name) = false := by
  have different : name.toList.getLast h.toList_ne_nil ≠ '/' := fun same =>
    h.noSlash (same ▸ List.getLast_mem h.toList_ne_nil)
  rw [joinPath_eq directory h, endsInSlash, String.toList_append,
    List.getLast?_append, List.getLast?_eq_some_getLast h.toList_ne_nil]
  simpa using different

theorem startsAtRoot_joinPath (directory : String) {name : String} (h : IsName name) :
    startsAtRoot (joinPath directory name) = startsAtRoot directory := by
  rw [joinPath_eq directory h, joinLead]
  split
  next empty =>
    rw [String.isEmpty_iff.mp empty, String.empty_append, startsAtRoot_name h]
    rfl
  next given =>
    have nonempty : directory.toList ≠ [] := by
      simpa [String.toList_eq_nil_iff, String.isEmpty_iff] using given
    obtain ⟨c, rest, chars⟩ := List.exists_cons_of_ne_nil nonempty
    split <;> simp [startsAtRoot, String.toList_append, chars]

namespace Store

theorem base_joinPath (store : Store) (directory : String) {name : String} (h : IsName name) :
    store.base (joinPath directory name) = store.base directory := by
  rw [base, base, startsAtRoot_joinPath directory h]

theorem checkText_eq_ok_iff {text : String} :
    checkText text = .ok () ↔ '\x00' ∉ text.toList ∧ text.utf8ByteSize ≤ maxPath := by
  unfold checkText
  split
  · simp_all
  · split
    · simp_all
    · simp_all

/-- Of two names in one directory the shorter is accepted if the longer is. -/
theorem checkText_joinPath_of_le {directory longer shorter : String} (hl : IsName longer)
    (hs : IsName shorter) (nul : '\x00' ∉ shorter.toList)
    (le : shorter.utf8ByteSize ≤ longer.utf8ByteSize)
    (accepted : checkText (joinPath directory longer) = .ok ()) :
    checkText (joinPath directory shorter) = .ok () := by
  rw [checkText_eq_ok_iff, joinPath_eq directory hl, String.toList_append,
    String.utf8ByteSize_append] at accepted
  rw [checkText_eq_ok_iff, joinPath_eq directory hs, String.toList_append,
    String.utf8ByteSize_append]
  obtain ⟨absent, short⟩ := accepted
  refine ⟨?_, by omega⟩
  simp only [List.mem_append, not_or] at absent ⊢
  exact ⟨absent.1, nul⟩

end Store

end TreeSchema
