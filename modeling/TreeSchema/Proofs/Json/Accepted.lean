import TreeSchema.Proofs.Json.Reading
import TreeSchema.Proofs.Steps

/-!
Accepted documents. A reader has opened no more brackets than its budget allows, which bounds what
its answer can weigh.
-/

namespace TreeSchema.Json

variable {α β ρ : Type} {budget inner : Nat}

namespace Value

theorem itemsDepth_le_iff {items : List Value} {bound : Nat} :
    itemsDepth items ≤ bound ↔ ∀ item ∈ items, item.depth ≤ bound := by
  induction items with
  | nil => simp [itemsDepth]
  | cons item rest ih => rw [itemsDepth, Nat.max_le, ih, List.forall_mem_cons]

end Value

theorem map_eq_ok_iff {outcome : Except Fault α} {f : α → β} {answer : β} :
    outcome.map f = .ok answer ↔ ∃ a, outcome = .ok a ∧ f a = answer := by
  cases outcome with
  | error fault => exact ⟨nofun, fun ⟨_, impossible, _⟩ => nomatch impossible⟩
  | ok a => simp [Except.map]

theorem enter_eq_ok_iff {start : Nat} {next : { inner : Nat // inner < budget } → Except Fault α}
    {answer : α} : (enter budget start >>= next) = .ok answer ↔
      ∃ inner, ∃ h : inner < budget, inner + 1 = budget ∧ next ⟨inner, h⟩ = .ok answer := by
  cases budget with
  | zero =>
    constructor
    · exact nofun
    · rintro ⟨inner, h, -, -⟩
      exact absurd h (Nat.not_lt_zero inner)
  | succ inner =>
    constructor
    · exact fun answered => ⟨inner, Nat.lt_succ_self inner, rfl, answered⟩
    · rintro ⟨_, h, same, answered⟩
      obtain rfl := Nat.succ.inj same
      exact answered

namespace Document

/-! ### Lists -/

theorem exists_of_mem_mapM {read : Item Document → Except Fault α} {items : List (Item Document)}
    {list : List α} (all : items.mapM read = .ok list) {a : α} (member : a ∈ list) :
    ∃ item ∈ items, read item = .ok a := by
  induction items generalizing list with
  | nil =>
    obtain rfl : [] = list := Except.ok.inj all
    exact absurd member List.not_mem_nil
  | cons item rest ih =>
    rw [List.mapM_cons] at all
    obtain ⟨first, answered, all⟩ := bind_eq_ok_iff.mp all
    obtain ⟨others, later, same⟩ := bind_eq_ok_iff.mp all
    obtain rfl : first :: others = list := Except.ok.inj same
    rcases List.mem_cons.mp member with rfl | member
    · exact ⟨item, List.mem_cons_self, answered⟩
    · obtain ⟨other, among, answered⟩ := ih later member
      exact ⟨other, List.mem_cons_of_mem item among, answered⟩

theorem depth_le_of_readList {item : Inner budget α} {print : α → Value} {document : Document}
    {list : List α}
    (each : ∀ inner h follow document a, item inner h follow document = .ok a →
      (print a).depth ≤ inner)
    (read : document.readList budget item = .ok list) :
    (Value.list (list.map print)).depth ≤ budget := by
  cases document with
  | scalar | object | flawed => exact nomatch read
  | list start items ending =>
    obtain ⟨inner, h, rfl, read⟩ := enter_eq_ok_iff.mp read
    obtain ⟨values, all, read⟩ := bind_eq_ok_iff.mp read
    obtain ⟨-, -, same⟩ := bind_eq_ok_iff.mp read
    obtain rfl : values = list := Except.ok.inj same
    rw [Value.depth, Nat.add_le_add_iff_right, Value.itemsDepth_le_iff, List.forall_mem_map]
    intro a member
    obtain ⟨i, -, answered⟩ := exists_of_mem_mapM all member
    exact each inner h i.follow i.value a answered

/-! ### Records -/

section Records

variable {slots rest : List (Slot budget ρ)} {h : inner < budget} {blank record filled : ρ}
  {seen met : List String} {weight : ρ → Nat} {name : String}

/-- The record has been filled in by the slots of those names. -/
inductive Filled (slots : List (Slot budget ρ)) (inner : Nat) (h : inner < budget) (blank : ρ) :
    List String → ρ → Prop
  | blank : Filled slots inner h blank [] blank
  | read {seen : List String} {record : ρ} {slot : Slot budget ρ} {follow : Nat}
    {document : Document} {change : ρ → ρ} (before : Filled slots inner h blank seen record)
    (member : slot ∈ slots) (read : slot.read inner h follow document = .ok change) :
    Filled slots inner h blank (slot.name :: seen) (change record)

theorem Filled.of_readMembers {members : List (Member Document)}
    (before : Filled slots inner h blank seen record)
    (read : readMembers slots inner h seen record members = .ok (met, filled)) :
    Filled slots inner h blank met filled := by
  induction members generalizing seen record with
  | nil =>
    cases read
    exact before
  | cons member rest ih =>
    rw [readMembers] at read
    obtain ⟨key, -, read⟩ := bind_eq_ok_iff.mp read
    cases found : slots.find? (·.name = key) with
    | none =>
      rw [found] at read
      obtain ⟨-, -, read⟩ := bind_eq_ok_iff.mp read
      exact ih before read
    | some slot =>
      have named : slot.name = key := by simpa using List.find?_some found
      simp only [found] at read
      split at read
      · cases read
      · obtain ⟨change, changed, read⟩ := bind_eq_ok_iff.mp read
        have after := before.read (List.mem_of_find?_eq_some found) changed
        exact ih (named ▸ after) read

theorem Filled.of_readElements {expected : String} {ending : ListEnd} {n : Nat}
    {items : List (Item Document)} (before : Filled slots inner h blank seen record)
    (among : ∀ slot ∈ rest, slot ∈ slots)
    (read : readElements expected inner h ending n record rest items = .ok filled) :
    ∃ met, Filled slots inner h blank met filled ∧ (∀ name ∈ seen, name ∈ met) ∧
      ∀ slot ∈ rest, slot.required = true → slot.name ∈ met := by
  induction rest generalizing n record seen items with
  | nil =>
    cases items with
    | nil =>
      obtain ⟨-, -, same⟩ := bind_eq_ok_iff.mp read
      obtain rfl : record = filled := Except.ok.inj same
      exact ⟨seen, before, fun _ => id, nofun⟩
    | cons item items => exact nomatch read
  | cons slot rest ih =>
    obtain ⟨member, among⟩ := List.forall_mem_cons.mp among
    cases items with
    | nil =>
      -- The slots that are left keep what the record has at first, so none of them is needed.
      obtain ⟨-, -, read⟩ := bind_eq_ok_iff.mp read
      split at read
      next => exact nomatch read
      next optional =>
        obtain ⟨met, after, kept, rest⟩ := ih before among read
        exact ⟨met, after, kept, List.forall_mem_cons.mpr ⟨fun h => absurd h optional, rest⟩⟩
    | cons item items =>
      obtain ⟨change, changed, read⟩ := bind_eq_ok_iff.mp read
      obtain ⟨met, after, kept, rest⟩ := ih (before.read member changed) among read
      obtain ⟨first, kept⟩ := List.forall_mem_cons.mp kept
      exact ⟨met, after, kept, List.forall_mem_cons.mpr ⟨fun _ => first, rest⟩⟩

/-- A record is filled in by its slots, among them all that it needs. -/
theorem exists_filled {expected : String} {document : Document}
    (read : document.readRecord budget expected blank slots = .ok filled) :
    ∃ inner, ∃ h : inner < budget, inner + 1 = budget ∧ ∃ met,
      Filled slots inner h blank met filled ∧
      ∀ slot ∈ slots, slot.required = true → slot.name ∈ met := by
  cases document with
  | scalar | flawed => exact nomatch read
  | list start items ending =>
    obtain ⟨inner, h, same, read⟩ := enter_eq_ok_iff.mp read
    obtain ⟨met, after, -, complete⟩ := Filled.of_readElements .blank (fun _ => id) read
    exact ⟨inner, h, same, met, after, complete⟩
  | object start members ending =>
    obtain ⟨inner, h, same, read⟩ := enter_eq_ok_iff.mp read
    obtain ⟨⟨met, record⟩, members, read⟩ := bind_eq_ok_iff.mp read
    obtain ⟨-, -, read⟩ := bind_eq_ok_iff.mp read
    split at read
    next => exact nomatch read
    next complete =>
      obtain rfl : record = filled := Except.ok.inj read
      refine ⟨inner, h, same, met, Filled.of_readMembers .blank members, ?_⟩
      intro slot member required
      have known := List.find?_eq_none.mp complete slot member
      simpa [required] using known

/-- What is read for the slot weighs no more than the budget, or the slot has another name and does
not change the weight. -/
def Slot.Bounds (slot : Slot budget ρ) (name : String) (weight : ρ → Nat) : Prop :=
  ∀ inner h follow document change, slot.read inner h follow document = .ok change →
    ∀ record, weight (change record) ≤ inner ∨
      slot.name ≠ name ∧ weight (change record) = weight record

theorem Slot.bounds_of_own {read : Inner budget α} {set : α → ρ → ρ} {required : Bool}
    {slotName : String}
    (own : ∀ inner h follow document a, read inner h follow document = .ok a →
      ∀ record, weight (set a record) ≤ inner) :
    Slot.Bounds ⟨slotName, required, fun inner h follow document =>
      (read inner h follow document).map set⟩ name weight := by
  intro inner h follow document change answered record
  obtain ⟨a, read, rfl⟩ := map_eq_ok_iff.mp answered
  exact .inl (own inner h follow document a read record)

theorem Slot.bounds_of_other {read : Inner budget α} {set : α → ρ → ρ} {required : Bool}
    {slotName : String} (other : slotName ≠ name)
    (same : ∀ a record, weight (set a record) = weight record) :
    Slot.Bounds ⟨slotName, required, fun inner h follow document =>
      (read inner h follow document).map set⟩ name weight := by
  intro inner h follow document change answered record
  obtain ⟨a, -, rfl⟩ := map_eq_ok_iff.mp answered
  exact .inr ⟨other, same a record⟩

theorem Filled.weight_le (after : Filled slots inner h blank met filled)
    (bounds : ∀ slot ∈ slots, slot.Bounds name weight)
    (set : weight blank ≤ inner ∨ name ∈ met) : weight filled ≤ inner := by
  induction after with
  | blank => simpa using set
  | @read seen record slot follow document change before member read ih =>
    rcases bounds slot member inner h follow document change read record with light | ⟨other, same⟩
    · exact light
    · rw [same]
      refine ih (set.imp_right fun among => ?_)
      exact (List.mem_cons.mp among).resolve_left other.symm

/-- What a record weighs by the field of a name, if it is small at first or needs the field. -/
theorem weight_lt_of_readRecord (weight : ρ → Nat) (name : String) {expected : String}
    {document : Document}
    (read : document.readRecord budget expected blank slots = .ok filled)
    (bounds : ∀ slot ∈ slots, slot.Bounds name weight)
    (set : weight blank < budget ∨ ∃ slot ∈ slots, slot.required = true ∧ slot.name = name) :
    weight filled < budget := by
  obtain ⟨inner, h, rfl, met, after, complete⟩ := exists_filled read
  refine Nat.lt_succ_of_le (after.weight_le bounds ?_)
  rcases set with small | ⟨slot, member, required, rfl⟩
  · exact .inl (Nat.le_of_lt_succ small)
  · exact .inr (complete slot member required)

end Records

/-! ### Choices -/

section Choices

variable {variants : List (String × Content budget α)} {weight : α → Nat} {answer : α}

/-- What the variant stands for weighs nothing by itself, and with content one more than the
content's budget. -/
def Content.Bounds (content : Content budget α) (weight : α → Nat) : Prop :=
  match content with
  | .empty answer => weight answer = 0
  | .single read | .fields read => ∀ inner h follow document answer,
      read inner h follow document = .ok answer → weight answer ≤ inner + 1

theorem Content.bounds_of_map {read : Inner budget β} {f : β → α}
    (each : ∀ inner h follow document b, read inner h follow document = .ok b →
      weight (f b) ≤ inner + 1) :
    Content.Bounds (.single fun inner h follow document =>
      (read inner h follow document).map f) weight := by
  intro inner h follow document answer answered
  obtain ⟨b, read, rfl⟩ := map_eq_ok_iff.mp answered
  exact each inner h follow document b read

theorem Content.Bounds.weight_le {content : Content budget α} (bounds : content.Bounds weight)
    {h : inner < budget} {follow : Nat} {document : Document}
    (read : content.read inner h follow document = .ok answer) : weight answer ≤ inner + 1 := by
  cases content with
  | empty result =>
    unfold Content.read at read
    dsimp only at read
    split at read
    · obtain rfl := Except.ok.inj read
      exact bounds ▸ Nat.zero_le _
    · exact nomatch read
  | single | fields => exact bounds inner h follow document answer read

theorem mem_of_findVariant {name : String} {stop : Nat} {content : Content budget α}
    (found : findVariant variants name stop = .ok content) : (name, content) ∈ variants := by
  unfold findVariant at found
  split at found
  next known =>
    obtain rfl := Except.ok.inj found
    obtain ⟨before, after, rfl, -⟩ := List.lookup_eq_some_iff.mp known
    exact List.mem_append_right before List.mem_cons_self
  next => exact nomatch found

theorem weight_le_of_readChoice (weight : α → Nat) {follow : Nat} {document : Document}
    (read : document.readChoice budget variants follow = .ok answer)
    (bounds : ∀ variant ∈ variants, variant.2.Bounds weight) : weight answer ≤ budget := by
  cases document with
  | list => exact nomatch read
  | flawed flaw start => cases flaw <;> exact nomatch read
  | scalar scalar start stop =>
    cases scalar with
    | word | numeral => exact nomatch read
    | string body =>
      obtain ⟨name, -, read⟩ := bind_eq_ok_iff.mp read
      obtain ⟨content, found, read⟩ := bind_eq_ok_iff.mp read
      have bound := bounds _ (mem_of_findVariant found)
      cases content with
      | single | fields => exact nomatch read
      | empty result =>
        obtain rfl := Except.ok.inj read
        exact bound ▸ Nat.zero_le _
  | object start members ending =>
    obtain ⟨inner, h, rfl, read⟩ := enter_eq_ok_iff.mp read
    cases members with
    | nil =>
      obtain ⟨-, -, impossible⟩ := bind_eq_ok_iff.mp read
      exact nomatch impossible
    | cons member rest =>
      obtain ⟨name, -, read⟩ := bind_eq_ok_iff.mp read
      obtain ⟨content, found, read⟩ := bind_eq_ok_iff.mp read
      obtain ⟨value, answered, read⟩ := bind_eq_ok_iff.mp read
      obtain ⟨-, -, same⟩ := bind_eq_ok_iff.mp read
      obtain rfl : value = answer := Except.ok.inj same
      exact (bounds _ (mem_of_findVariant found)).weight_le answered

end Choices

end Document

end TreeSchema.Json
