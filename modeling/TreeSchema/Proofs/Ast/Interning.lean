import Mathlib.Data.Finset.Card
import TreeSchema.Ast.Interner

/-!
Runs of interners. Texts are interned one after the other, and now and then another interner takes
the place of the one before. Atoms are told apart by the interner and the text they come from, and
go on being so when their interner is gone.
-/

namespace TreeSchema.Ast

/-- What is done: a text is interned, or an interner without entries takes the place. -/
inductive Call where
  | intern (text : String)
  | renew

/-- An atom with the text that it was made of and the number of interners that were gone then. -/
structure Made where
  text : String
  renewals : Nat
  atom : Atom

/-- An interner, how many were gone before it, and all that any of them has made. -/
structure History where
  interner : Interner
  renewals : Nat
  made : List Made

namespace History

variable {history : History} {made first second : Made} {text : String} {entry : Nat}

def start : History := ⟨.empty, 0, []⟩

def step (history : History) : Call → History
  | .intern text =>
    let (interner, atom) := history.interner.intern text
    { history with interner, made := history.made ++ [⟨text, history.renewals, atom⟩] }
  | .renew =>
    { history with interner := history.interner.renew, renewals := history.renewals + 1 }

def run (history : History) (calls : List Call) : History :=
  calls.foldl step history

/-- The texts interned since an interner was last replaced. -/
def recent (history : History) : List String :=
  (history.made.filter (·.renewals = history.renewals)).map (·.text)

/-! ### The invariant -/

/-- An entry of the interner is what atoms were made from since the last replacement, and no two
atoms share an entry that do not come from one interner and one text. -/
structure Consistent (history : History) : Prop where
  texts : (history.interner.entries.map (·.1)).Nodup
  text : ∀ made ∈ history.made, made.atom.text = made.text
  past : ∀ made ∈ history.made, made.renewals ≤ history.renewals
  used : ∀ made ∈ history.made, made.atom.entry < history.interner.next
  entries : ∀ text entry, (text, entry) ∈ history.interner.entries ↔
    ∃ made ∈ history.made,
      made.renewals = history.renewals ∧ made.text = text ∧ made.atom.entry = entry
  same : ∀ first ∈ history.made, ∀ second ∈ history.made,
    first.atom.SameEntry second.atom ↔
      first.renewals = second.renewals ∧ first.text = second.text

theorem start_consistent : start.Consistent :=
  ⟨List.nodup_nil, by simp [start], by simp [start], by simp [start],
    by simp [start, Interner.empty], by simp [start]⟩

theorem Consistent.renew (h : history.Consistent) : (history.step .renew).Consistent where
  texts := List.nodup_nil
  text := h.text
  past made member := Nat.le_succ_of_le (h.past made member)
  used := h.used
  entries text entry := by
    refine ⟨fun absent => absurd absent List.not_mem_nil, ?_⟩
    rintro ⟨made, member, now, -⟩
    have past := h.past made member
    have now : made.renewals = history.renewals + 1 := now
    omega
  same := h.same

/-- Atoms go on being told apart when one is made that shares its entry with just the atoms of the
same interner and text. -/
theorem same_append {all : List Made} {new : Made}
    (same : ∀ first ∈ all, ∀ second ∈ all, first.atom.SameEntry second.atom ↔
      first.renewals = second.renewals ∧ first.text = second.text)
    (fits : ∀ made ∈ all, made.atom.SameEntry new.atom ↔
      made.renewals = new.renewals ∧ made.text = new.text) :
    ∀ first ∈ all ++ [new], ∀ second ∈ all ++ [new], first.atom.SameEntry second.atom ↔
      first.renewals = second.renewals ∧ first.text = second.text := by
  simp only [List.forall_mem_append, List.forall_mem_singleton]
  refine ⟨fun first member => ⟨same first member, fits first member⟩, fun second member => ?_, ?_⟩
  · have turned := fits second member
    rw [Atom.SameEntry, eq_comm, eq_comm (a := new.renewals), eq_comm (a := new.text)]
    exact turned
  · simp [Atom.SameEntry]

/-- The text has an entry: the atom that is made shares it. -/
theorem Consistent.intern_of_some (h : history.Consistent)
    (found : history.interner.entries.lookup text = some entry) :
    (history.step (.intern text)).Consistent := by
  have result : history.step (.intern text) =
      { history with made := history.made ++ [⟨text, history.renewals, ⟨text, entry⟩⟩] } := by
    simp only [step, Interner.intern, found]
  have known : (text, entry) ∈ history.interner.entries := by
    obtain ⟨front, back, parts, -⟩ := List.lookup_eq_some_iff.mp found
    exact parts ▸ List.mem_append_right _ List.mem_cons_self
  obtain ⟨earlier, among, now, named, shared⟩ := (h.entries text entry).mp known
  rw [result]
  refine ⟨h.texts, ?_, ?_, ?_, fun other number => ?_, same_append h.same fun made member => ?_⟩
  · exact List.forall_mem_append.mpr ⟨h.text, by simp⟩
  · exact List.forall_mem_append.mpr ⟨h.past, by simp⟩
  · exact List.forall_mem_append.mpr ⟨h.used, by simpa [shared] using h.used earlier among⟩
  · rw [h.entries]
    constructor
    · rintro ⟨made, member, rest⟩
      exact ⟨made, List.mem_append_left _ member, rest⟩
    · rintro ⟨made, member, rest⟩
      rcases List.mem_append.mp member with old | new
      · exact ⟨made, old, rest⟩
      · obtain rfl := List.mem_singleton.mp new
        obtain ⟨-, rfl, rfl⟩ := rest
        exact ⟨earlier, among, now, named, shared⟩
  · have like := h.same made member earlier among
    rw [now, named, Atom.SameEntry, shared] at like
    exact like

/-- The text has no entry: the atom that is made shares the new one with none. -/
theorem Consistent.intern_of_none (h : history.Consistent)
    (missing : history.interner.entries.lookup text = none) :
    (history.step (.intern text)).Consistent := by
  have result : history.step (.intern text) =
      { history with
        interner := ⟨history.interner.entries ++ [(text, history.interner.next)],
          history.interner.next + 1⟩
        made := history.made ++
          [⟨text, history.renewals, ⟨text, history.interner.next⟩⟩] } := by
    simp only [step, Interner.intern, missing]
  have unknown : ∀ entry, (text, entry) ∉ history.interner.entries := by
    intro entry known
    have different := List.lookup_eq_none_iff.mp missing (text, entry) known
    simp at different
  rw [result]
  refine ⟨?_, ?_, ?_, ?_, fun other number => ?_, same_append h.same fun made member => ?_⟩
  · rw [List.map_append, List.map_cons, List.map_nil, List.nodup_append']
    refine ⟨h.texts, List.nodup_singleton text, ?_⟩
    rw [List.disjoint_singleton]
    intro twice
    obtain ⟨⟨key, entry⟩, known, rfl⟩ := List.mem_map.mp twice
    exact unknown entry known
  · exact List.forall_mem_append.mpr ⟨h.text, by simp⟩
  · exact List.forall_mem_append.mpr ⟨h.past, by simp⟩
  · refine List.forall_mem_append.mpr ⟨fun made member => ?_, by simp⟩
    exact Nat.lt_succ_of_lt (h.used made member)
  · rw [List.mem_append, h.entries, List.mem_singleton, Prod.mk.injEq]
    constructor
    · rintro (⟨made, member, rest⟩ | ⟨rfl, rfl⟩)
      · exact ⟨made, List.mem_append_left _ member, rest⟩
      · exact ⟨_, List.mem_append_right _ List.mem_cons_self, rfl, rfl, rfl⟩
    · rintro ⟨made, member, rest⟩
      rcases List.mem_append.mp member with old | new
      · exact .inl ⟨made, old, rest⟩
      · obtain rfl := List.mem_singleton.mp new
        exact .inr ⟨rest.2.1.symm, rest.2.2.symm⟩
  · constructor
    · intro shared
      have used := h.used made member
      have shared : made.atom.entry = history.interner.next := shared
      omega
    · rintro ⟨now, rfl⟩
      exact absurd ((h.entries _ _).mpr ⟨made, member, now, rfl, rfl⟩) (unknown _)

theorem Consistent.step (h : history.Consistent) (call : Call) :
    (history.step call).Consistent := by
  cases call with
  | renew => exact h.renew
  | intern text =>
    cases found : history.interner.entries.lookup text with
    | some entry => exact h.intern_of_some found
    | none => exact h.intern_of_none found

theorem Consistent.run (h : history.Consistent) (calls : List Call) :
    (history.run calls).Consistent := by
  induction calls generalizing history with
  | nil => exact h
  | cons call rest ih => exact ih (h.step call)

/-! ### What is kept of it -/

theorem mem_recent_iff : text ∈ history.recent ↔
    ∃ made ∈ history.made, made.renewals = history.renewals ∧ made.text = text := by
  simp [recent, and_assoc]

theorem Consistent.map_fst_toFinset (h : history.Consistent) :
    (history.interner.entries.map (·.1)).toFinset = history.recent.toFinset := by
  ext text
  simp only [List.mem_toFinset, mem_recent_iff, List.mem_map, Prod.exists, exists_eq_right,
    exists_and_right, h.entries]
  constructor
  · rintro ⟨entry, made, member, now, named, -⟩
    exact ⟨made, member, now, named⟩
  · rintro ⟨made, member, now, named⟩
    exact ⟨made.atom.entry, made, member, now, named, rfl⟩

theorem Consistent.size_eq_card (h : history.Consistent) :
    history.interner.size = history.recent.toFinset.card := by
  rw [← h.map_fst_toFinset, List.toFinset_card_of_nodup h.texts, List.length_map, Interner.size]

theorem Consistent.isEmpty_iff (h : history.Consistent) :
    history.interner.isEmpty = true ↔ history.recent = [] := by
  rw [Interner.isEmpty, List.isEmpty_iff_length_eq_zero, ← Interner.size, h.size_eq_card,
    Finset.card_eq_zero, List.toFinset_eq_empty_iff]

/-- What has been made stays as it was. -/
theorem exists_made_run (history : History) (calls : List Call) :
    ∃ later, (history.run calls).made = history.made ++ later := by
  induction calls generalizing history with
  | nil => exact ⟨[], (List.append_nil _).symm⟩
  | cons call rest ih =>
    obtain ⟨later, made⟩ := ih (history.step call)
    obtain ⟨first, one⟩ : ∃ first, (history.step call).made = history.made ++ first := by
      cases call with
      | intern text => exact ⟨_, rfl⟩
      | renew => exact ⟨[], (List.append_nil _).symm⟩
    exact ⟨first ++ later, by rw [run, List.foldl_cons, ← run, made, one, List.append_assoc]⟩

theorem run_append (history : History) (calls more : List Call) :
    history.run (calls ++ more) = (history.run calls).run more :=
  List.foldl_append

/-- What atoms and interners tell of the texts that were interned. -/
structure Faithful (history : History) : Prop where
  sameEntry_iff : ∀ first ∈ history.made, ∀ second ∈ history.made,
    first.atom.SameEntry second.atom ↔
      first.renewals = second.renewals ∧ first.text = second.text
  beq_iff : ∀ first ∈ history.made, ∀ second ∈ history.made,
    (first.atom == second.atom) = true ↔ first.text = second.text
  text : ∀ made ∈ history.made, made.atom.text = made.text
  size : history.interner.size = history.recent.toFinset.card
  isEmpty_iff : history.interner.isEmpty = true ↔ history.recent = []

theorem Consistent.faithful (h : history.Consistent) : history.Faithful where
  sameEntry_iff := h.same
  beq_iff first member second memberToo := by
    rw [← h.text first member, ← h.text second memberToo]
    change (first.atom.text == second.atom.text) = true ↔ _
    rw [beq_iff_eq]
  text := h.text
  size := h.size_eq_card
  isEmpty_iff := h.isEmpty_iff

/-- After any calls atoms tell by what interner and from what text they were made, the interner how
many texts it has met, and whatever calls come later change none of the atoms. -/
theorem run_faithful (calls : List Call) : (start.run calls).Faithful ∧
    ∀ more, ∃ later, (start.run (calls ++ more)).made = (start.run calls).made ++ later := by
  refine ⟨(start_consistent.run calls).faithful, fun more => ?_⟩
  rw [run_append]
  exact exists_made_run _ more

end History

end TreeSchema.Ast
