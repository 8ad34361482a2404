import Mathlib.Data.List.Pairwise
import TreeSchema.Proofs.Json.Places

/-!
The members of a record. It is filled in by the same changes in any order, and members that it does
not know or that say what it holds without them leave it as it is.
-/

namespace TreeSchema.Json

variable {α ρ : Type} {budget inner : Nat}

namespace Tree

/-- The document of a member at no place. -/
def memberDocument (member : List Part × Tree) : Member Document :=
  ⟨bodyOf member.1, 0, 0, member.2.document, 0⟩

theorem itemDocuments_eq_map (items : List Tree) :
    itemDocuments items = items.map fun item => ⟨item.document, 0⟩ := by
  induction items with
  | nil => rfl
  | cons item rest ih => rw [itemDocuments, ih, List.map_cons]

end Tree

namespace Document

open TreeSchema.Json.Tree

/-! ### One change at a time -/

variable {slots : List (Slot budget ρ)} {h : inner < budget} {seen other next : List String}
  {blank record changed filled : ρ} {first second member : List Part × Tree}
  {members rest : List (List Part × Tree)} {key : List Part} {name : String}

/-- The changes of the two slots can be made in any order. -/
def Apart (s t : Slot budget ρ) : Prop :=
  ∀ inner h follow follow' document document' change change',
    s.read inner h follow document = .ok change → t.read inner h follow' document' = .ok change' →
      ∀ record, change (change' record) = change' (change record)

@[simp]
theorem apart_of_map {β : Type} {name name' : String} {required required' : Bool}
    {read : Inner budget α} {read' : Inner budget β} {set : α → ρ → ρ} {set' : β → ρ → ρ}
    (commute : ∀ a b record, set a (set' b record) = set' b (set a record)) :
    Apart ⟨name, required, fun inner h follow document =>
        (read inner h follow document).map set⟩
      ⟨name', required', fun inner h follow document =>
        (read' inner h follow document).map set'⟩ := by
  intro inner h follow follow' document document' change change' changed changed' record
  obtain ⟨a, -, rfl⟩ := map_eq_ok_iff.mp changed
  obtain ⟨b, -, rfl⟩ := map_eq_ok_iff.mp changed'
  exact commute a b record

instance : Std.Symm (Apart : Slot budget ρ → Slot budget ρ → Prop) where
  symm _ _ apart inner h _ _ _ _ _ _ changed changed' record :=
    (apart inner h _ _ _ _ _ _ changed' changed record).symm

theorem apart_of_mem (apart : slots.Pairwise Apart) {s t : Slot budget ρ} (left : s ∈ slots)
    (right : t ∈ slots) (different : s.name ≠ t.name) : Apart s t :=
  apart.forall left right fun same => different (congrArg Slot.name same)

/-- Reading the members fills in the record, with all that it needs. -/
def Completes (slots : List (Slot budget ρ)) (inner : Nat) (h : inner < budget)
    (seen : List String) (record : ρ) (members : List (List Part × Tree)) (filled : ρ) : Prop :=
  ∃ met, readMembers slots inner h seen record (memberDocuments members) = .ok (met, filled) ∧
    ∀ slot ∈ slots, slot.required = true → slot.name ∈ met

theorem completes_nil_iff : Completes slots inner h seen record [] filled ↔
    record = filled ∧ ∀ slot ∈ slots, slot.required = true → slot.name ∈ seen := by
  constructor
  · rintro ⟨met, read, complete⟩
    cases read
    exact ⟨rfl, complete⟩
  · rintro ⟨rfl, complete⟩
    exact ⟨seen, rfl, complete⟩

theorem completes_cons_iff : Completes slots inner h seen record (member :: rest) filled ↔
    ∃ next changed, Advances slots inner h seen record (memberDocument member) next changed ∧
      Completes slots inner h next changed rest filled := by
  constructor
  · rintro ⟨met, read, complete⟩
    obtain ⟨next, changed, advances, read⟩ := readMembers_cons_eq_ok_iff.mp read
    exact ⟨next, changed, advances, met, read, complete⟩
  · rintro ⟨next, changed, advances, met, read, complete⟩
    exact ⟨met, readMembers_cons_eq_ok_iff.mpr ⟨next, changed, advances, read⟩, complete⟩

/-- Only the fields that are still to come or needed have to be met or not. -/
theorem Completes.of_seen (completes : Completes slots inner h seen record members filled)
    (named : ∀ member ∈ members, ∀ name, Means member.1 name → (name ∈ seen ↔ name ∈ other))
    (needed : ∀ slot ∈ slots, slot.required = true → (slot.name ∈ seen ↔ slot.name ∈ other)) :
    Completes slots inner h other record members filled := by
  induction members generalizing seen other record with
  | nil =>
    obtain ⟨same, complete⟩ := completes_nil_iff.mp completes
    refine completes_nil_iff.mpr ⟨same, fun slot member required => ?_⟩
    exact (needed slot member required).mp (complete slot member required)
  | cons member rest ih =>
    obtain ⟨next, changed, advances, completes⟩ := completes_cons_iff.mp completes
    obtain ⟨own, named⟩ := List.forall_mem_cons.mp named
    refine completes_cons_iff.mpr ?_
    cases advances with
    | skip means unknown sound =>
      exact ⟨other, record, .skip means unknown sound, ih completes named needed⟩
    | @read key slot change means known fresh read =>
      have unmet : key ∉ other :=
        fun met => fresh ((own key (decode_bodyOf_eq_ok_iff.mp means)).mpr met)
      refine ⟨key :: other, change record, .read means known unmet read, ih completes ?_ ?_⟩
      · intro member among name means
        rw [List.mem_cons, List.mem_cons, named member among name means]
      · intro slot member required
        rw [List.mem_cons, List.mem_cons, needed slot member required]

/-! ### The order of the members -/

/-- Two members that come after each other may come the other way around. -/
theorem Completes.swap (apart : slots.Pairwise Apart)
    (completes : Completes slots inner h seen record (first :: second :: rest) filled) :
    Completes slots inner h seen record (second :: first :: rest) filled := by
  obtain ⟨next, changed, one, more⟩ := completes_cons_iff.mp completes
  obtain ⟨last, final, two, others⟩ := completes_cons_iff.mp more
  cases one with
  | skip means unknown sound =>
    refine completes_cons_iff.mpr ⟨last, final, two, completes_cons_iff.mpr ?_⟩
    exact ⟨last, final, .skip means unknown sound, others⟩
  | @read key slot change means known fresh read =>
    cases two with
    | skip means' unknown sound =>
      refine completes_cons_iff.mpr ⟨seen, record, .skip means' unknown sound, ?_⟩
      exact completes_cons_iff.mpr ⟨_, _, .read means known fresh read, others⟩
    | @read key' slot' change' means' known' fresh' read' =>
      obtain ⟨different, unmet⟩ := not_or.mp (List.mem_cons.not.mp fresh')
      have named : slot.name = key := by simpa using List.find?_some known
      have named' : slot'.name = key' := by simpa using List.find?_some known'
      have commute := apart_of_mem apart (List.mem_of_find?_eq_some known)
        (List.mem_of_find?_eq_some known') (by rw [named, named']; exact Ne.symm different)
      have again : key ∉ key' :: seen :=
        List.not_mem_cons_of_ne_of_not_mem (Ne.symm different) fresh
      refine completes_cons_iff.mpr ⟨_, _, .read means' known' unmet read', ?_⟩
      refine completes_cons_iff.mpr ⟨_, _, .read means known again read, ?_⟩
      rw [commute inner h _ _ _ _ _ _ read read']
      refine others.of_seen (fun _ _ name _ => ?_) (fun slot _ _ => ?_)
      · simp only [List.mem_cons, or_left_comm]
      · simp only [List.mem_cons, or_left_comm]

theorem Completes.perm (apart : slots.Pairwise Apart) (same : members.Perm rest)
    (completes : Completes slots inner h seen record members filled) :
    Completes slots inner h seen record rest filled := by
  induction same generalizing seen record with
  | nil => exact completes
  | cons member same ih =>
    obtain ⟨next, changed, advances, completes⟩ := completes_cons_iff.mp completes
    exact completes_cons_iff.mpr ⟨next, changed, advances, ih completes⟩
  | swap second first rest => exact completes.swap apart
  | trans _ _ ihFirst ihSecond => exact ihSecond (ihFirst completes)

/-! ### Members that say nothing new -/

theorem completes_unknown_iff {value : Tree} (means : Means key name)
    (unknown : slots.find? (·.name = name) = none) :
    Completes slots inner h seen record ((key, value) :: rest) filled ↔
      Completes slots inner h seen record rest filled := by
  have named : (bodyOf key).decode = .ok name := decode_bodyOf_eq_ok_iff.mpr means
  rw [completes_cons_iff]
  constructor
  · rintro ⟨next, changed, advances, completes⟩
    cases advances with
    | skip => exact completes
    | read other known =>
      obtain rfl := Except.ok.inj (other.symm.trans named)
      rw [unknown] at known
      cases known
  · intro completes
    exact ⟨seen, record, .skip named unknown (skipFault?_document value), completes⟩

/-- A member that leaves the record as it is, of a field that is not needed, may be left out. -/
theorem completes_default_iff {value : Tree} {slot : Slot budget ρ} {change : ρ → ρ}
    (means : Means key name) (absent : ∀ member ∈ rest, ¬Means member.1 name)
    (known : slots.find? (·.name = name) = some slot)
    (optional : ∀ slot ∈ slots, slot.required = true → slot.name ≠ name) (fresh : name ∉ seen)
    (read : slot.read inner h 0 value.document = .ok change) (same : change record = record) :
    Completes slots inner h seen record ((key, value) :: rest) filled ↔
      Completes slots inner h seen record rest filled := by
  have named : (bodyOf key).decode = .ok name := decode_bodyOf_eq_ok_iff.mpr means
  have later {seen other : List String}
      (met : ∀ found, found ≠ name → (found ∈ seen ↔ found ∈ other))
      (completes : Completes slots inner h seen record rest filled) :
      Completes slots inner h other record rest filled := by
    refine completes.of_seen (fun member among found stands => met found ?_)
      fun slot member required => met slot.name (optional slot member required)
    rintro rfl
    exact absent member among stands
  rw [completes_cons_iff]
  constructor
  · rintro ⟨next, changed, advances, completes⟩
    cases advances with
    | skip other unknown =>
      obtain rfl := Except.ok.inj (other.symm.trans named)
      rw [known] at unknown
      cases unknown
    | read other found fresh answered =>
      obtain rfl := Except.ok.inj (other.symm.trans named)
      obtain rfl := Option.some.inj (found.symm.trans known)
      obtain rfl := Except.ok.inj (answered.symm.trans read)
      rw [same] at completes
      exact later (fun found different => by simp [different]) completes
  · intro completes
    refine ⟨name :: seen, change record, .read named known fresh read, ?_⟩
    rw [same]
    exact later (fun found different => by simp [different]) completes

/-- A member may hold another value that is read as the same. -/
theorem Completes.value {value value' : Tree} {slot : Slot budget ρ} (means : Means key name)
    (known : slots.find? (·.name = name) = some slot)
    (same : ∀ change, slot.read inner h 0 value.document = .ok change →
      slot.read inner h 0 value'.document = .ok change)
    (completes : Completes slots inner h seen record ((key, value) :: rest) filled) :
    Completes slots inner h seen record ((key, value') :: rest) filled := by
  have named : (bodyOf key).decode = .ok name := decode_bodyOf_eq_ok_iff.mpr means
  obtain ⟨next, changed, advances, completes⟩ := completes_cons_iff.mp completes
  refine completes_cons_iff.mpr ⟨next, changed, ?_, completes⟩
  cases advances with
  | skip other unknown =>
    obtain rfl := Except.ok.inj (other.symm.trans named)
    rw [known] at unknown
    cases unknown
  | read other found fresh answered =>
    obtain rfl := Except.ok.inj (other.symm.trans named)
    obtain rfl := Option.some.inj (found.symm.trans known)
    exact .read named known fresh (same _ answered)

theorem readRecord_object_document {expected : String} :
    readRecord budget expected blank slots (Tree.object members).document = .ok filled ↔
      ∃ inner, ∃ h : inner < budget, inner + 1 = budget ∧
        Completes slots inner h [] blank members filled := by
  rw [Tree.document, readRecord_object_eq_ok_iff]
  exact and_iff_right rfl

/-! ### Lists -/

variable {front back : List Tree} {value value' : Tree} {expected : String} {stop n : Nat}

/-- An item may be another one that is read as the same. -/
theorem mapM_congr {read : Item Document → Except Fault α} {answers : List α}
    (same : ∀ a, read ⟨value.document, 0⟩ = .ok a ↔ read ⟨value'.document, 0⟩ = .ok a) :
    (itemDocuments (front ++ value :: back)).mapM read = .ok answers ↔
      (itemDocuments (front ++ value' :: back)).mapM read = .ok answers := by
  induction front generalizing answers with
  | nil =>
    rw [List.nil_append, List.nil_append, itemDocuments, itemDocuments, List.mapM_cons,
      List.mapM_cons, bind_eq_ok_iff, bind_eq_ok_iff]
    simp only [same]
  | cons first front ih =>
    rw [List.cons_append, List.cons_append, itemDocuments, itemDocuments, List.mapM_cons,
      List.mapM_cons, bind_eq_ok_iff, bind_eq_ok_iff]
    simp only [bind_eq_ok_iff, ih]

/-- An element may be another one that its field reads as the same. -/
theorem readElements_congr
    (same : ∀ slot, slots[front.length]? = some slot → ∀ change,
      slot.read inner h 0 value.document = .ok change ↔
        slot.read inner h 0 value'.document = .ok change) :
    readElements expected inner h (.closed stop) n record slots
        (itemDocuments (front ++ value :: back)) = .ok filled ↔
      readElements expected inner h (.closed stop) n record slots
        (itemDocuments (front ++ value' :: back)) = .ok filled := by
  induction front generalizing slots n record with
  | nil =>
    cases slots with
    | nil => constructor <;> (intro read; cases read)
    | cons slot slots =>
      rw [List.nil_append, List.nil_append, itemDocuments, itemDocuments, readElements,
        readElements, bind_eq_ok_iff, bind_eq_ok_iff]
      simp only [same slot rfl]
  | cons first front ih =>
    cases slots with
    | nil => constructor <;> (intro read; cases read)
    | cons slot slots =>
      rw [List.cons_append, List.cons_append, itemDocuments, itemDocuments, readElements,
        readElements, bind_eq_ok_iff, bind_eq_ok_iff]
      simp only [ih same]

/-- Elements that leave the record as it is may stand for the first of its fields, if none of them
is needed. -/
theorem readElements_of_kept {items : List (Item Document)}
    (optional : ∀ slot ∈ slots, slot.required = false)
    (kept : ∀ (i : Nat) item, items[i]? = some item → ∃ slot : Slot budget ρ,
      slots[i]? = some slot ∧ ∃ change, slot.read inner h item.follow item.value = .ok change ∧
        change record = record) :
    readElements expected inner h (.closed stop) n record slots items = .ok record := by
  induction slots generalizing n items with
  | nil =>
    cases items with
    | nil => rfl
    | cons item items =>
      obtain ⟨slot, impossible, -⟩ := kept 0 item rfl
      cases impossible
  | cons slot slots ih =>
    obtain ⟨first, optional⟩ := List.forall_mem_cons.mp optional
    cases items with
    | nil =>
      refine bind_eq_ok_iff.mpr ⟨(), rfl, ?_⟩
      rw [first]
      exact ih optional nofun
    | cons item items =>
      obtain ⟨own, known, change, read, same⟩ := kept 0 item rfl
      obtain rfl : slot = own := Option.some.inj known
      refine bind_eq_ok_iff.mpr ⟨change, read, ?_⟩
      rw [same]
      exact ih optional fun i => kept (i + 1)

end Document

end TreeSchema.Json
