import Mathlib.Data.List.Forall2
import TreeSchema.Schema.Check

/-!
Steps that may fail, one after the other. All succeed if and only if each does, and a fault is the
fault of one of them.
-/

namespace TreeSchema

variable {fault α β : Type} {first : Except fault α} {step : α → Except fault Unit} {list : List α}

theorem bind_eq_ok_iff {next : α → Except fault β} {answer : β} :
    (first >>= next) = .ok answer ↔ ∃ a, first = .ok a ∧ next a = .ok answer := by
  cases first with
  | error fault => exact ⟨nofun, fun ⟨_, impossible, _⟩ => nomatch impossible⟩
  | ok a => exact ⟨fun h => ⟨a, rfl, h⟩, fun ⟨b, same, h⟩ => Except.ok.inj same ▸ h⟩

theorem seq_eq_ok_iff {first : Except fault Unit} {next : Except fault β} {answer : β} :
    (first >>= fun _ => next) = .ok answer ↔ first = .ok () ∧ next = .ok answer := by
  rw [bind_eq_ok_iff]
  exact ⟨fun ⟨_, h⟩ => h, fun h => ⟨(), h⟩⟩

theorem forM_eq_ok_iff : list.forM step = .ok () ↔ ∀ a ∈ list, step a = .ok () := by
  induction list with
  | nil => exact ⟨nofun, fun _ => rfl⟩
  | cons a rest ih =>
    change (step a >>= fun _ => rest.forM step) = .ok () ↔ _
    rw [seq_eq_ok_iff, ih, List.forall_mem_cons]

theorem require_eq_ok_iff {condition : Bool} {defect : Defect} :
    require condition defect = .ok () ↔ condition = true := by
  cases condition <;> simp [require]

/-! ### Faults -/

variable {wrong : fault}

theorem bind_eq_error_iff {next : α → Except fault β} :
    (first >>= next) = .error wrong ↔
      first = .error wrong ∨ ∃ a, first = .ok a ∧ next a = .error wrong := by
  cases first with
  | error other =>
    constructor
    · intro failed
      cases failed
      exact .inl rfl
    · rintro (same | ⟨_, impossible, _⟩)
      · cases same
        rfl
      · cases impossible
  | ok a =>
    constructor
    · exact fun h => .inr ⟨a, rfl, h⟩
    · rintro (impossible | ⟨b, same, h⟩)
      · cases impossible
      · cases same
        exact h

theorem seq_eq_error_iff {first : Except fault Unit} {next : Except fault β} :
    (first >>= fun _ => next) = .error wrong ↔
      first = .error wrong ∨ first = .ok () ∧ next = .error wrong := by
  rw [bind_eq_error_iff]
  exact or_congr_right ⟨fun ⟨_, h⟩ => h, fun h => ⟨(), h⟩⟩

theorem exists_of_forM_eq_error (failed : list.forM step = .error wrong) :
    ∃ a ∈ list, step a = .error wrong := by
  induction list with
  | nil => cases failed
  | cons a rest ih =>
    have failed : (step a >>= fun _ => rest.forM step) = .error wrong := failed
    rcases seq_eq_error_iff.mp failed with here | ⟨-, later⟩
    · exact ⟨a, List.mem_cons_self, here⟩
    · obtain ⟨b, among, there⟩ := ih later
      exact ⟨b, List.mem_cons_of_mem _ among, there⟩

theorem require_eq_error_iff {condition : Bool} {defect other : Defect} :
    require condition defect = .error other ↔ condition = false ∧ defect = other := by
  cases condition <;> simp [require]

/-! ### One answer for each element -/

theorem exists_forall₂ {related : α → β → Prop} {list : List α}
    (each : ∀ a ∈ list, ∃ b, related a b) : ∃ answers, List.Forall₂ related list answers := by
  induction list with
  | nil => exact ⟨[], .nil⟩
  | cons a rest ih =>
    obtain ⟨⟨b, first⟩, later⟩ := List.forall_mem_cons.mp each
    obtain ⟨answers, others⟩ := ih later
    exact ⟨b :: answers, .cons first others⟩

theorem forall₂_getElem? {related : α → β → Prop} {list : List α} {answers : List β}
    {i : Nat} {a : α} {b : β} (all : List.Forall₂ related list answers) (left : list[i]? = some a)
    (right : answers[i]? = some b) : related a b := by
  obtain ⟨before, rfl⟩ := List.getElem?_eq_some_iff.mp left
  obtain ⟨within, rfl⟩ := List.getElem?_eq_some_iff.mp right
  exact all.get before within

theorem mapM_eq_some_iff_forall₂ {f : α → Option β} {list : List α} {answers : List β} :
    list.mapM f = some answers ↔ List.Forall₂ (fun a b => f a = some b) list answers := by
  induction list generalizing answers with
  | nil => simp [eq_comm]
  | cons a rest ih =>
    rw [List.mapM_cons, List.forall₂_cons_left_iff]
    constructor
    · intro all
      obtain ⟨b, first, all⟩ := Option.bind_eq_some_iff.mp all
      obtain ⟨others, later, same⟩ := Option.bind_eq_some_iff.mp all
      exact ⟨b, others, first, ih.mp later, (Option.some.inj same).symm⟩
    · rintro ⟨b, others, first, later, rfl⟩
      rw [first, ih.mpr later]
      rfl

end TreeSchema
