import TreeSchema.Json.Reading
import TreeSchema.Proofs.Json.Documents

/-!
Reading what was printed. A reader that knows what a value stands for answers with it if the budget
allows for as many brackets as the value nests, and reports that they are too many otherwise.
-/

namespace TreeSchema.Json

namespace Value

mutual

/-- The number of brackets that are open at a time in the text of a value. -/
@[simp]
def depth : Value → Nat
  | string _ => 0
  | list items => itemsDepth items + 1
  | object members => membersDepth members + 1

@[simp]
def itemsDepth : List Value → Nat
  | [] => 0
  | item :: rest => max item.depth (itemsDepth rest)

@[simp]
def memberDepth : String × Value → Nat
  | (_, value) => value.depth

@[simp]
def membersDepth : List (String × Value) → Nat
  | [] => 0
  | member :: rest => max (memberDepth member) (membersDepth rest)

end

theorem membersDepth_cons (member : String × Value) (rest : List (String × Value)) :
    membersDepth (member :: rest) = max member.2.depth (membersDepth rest) := by
  obtain ⟨name, value⟩ := member
  rw [membersDepth, memberDepth]

end Value

variable {α β ρ : Type} {depth deeper budget start : Nat} {answer : α} {other : β}
  {outcome : Except Fault α}

/-- The outcome is the answer if as many brackets may be open, and else the fault of too many. -/
structure Within (depth budget : Nat) (answer : α) (outcome : Except Fault α) : Prop where
  answered : depth ≤ budget → outcome = .ok answer
  refused : budget < depth → ∃ fault, outcome = .error fault ∧ fault.cause = .tooDeep

theorem ok_bind {fault : Type} {a : α} {next : α → Except fault β} :
    (Except.ok a >>= next) = next a :=
  rfl

namespace Within

theorem of_eq (same : outcome = .ok answer) : Within 0 budget answer outcome where
  answered _ := same
  refused exceeded := absurd exceeded (Nat.not_lt_zero _)

theorem bind {next : α → Except Fault β} (first : Within depth budget answer outcome)
    (second : Within deeper budget other (next answer)) :
    Within (max depth deeper) budget other (outcome >>= next) where
  answered enough := by
    rw [first.answered (by omega)]
    exact second.answered (by omega)
  refused exceeded := by
    by_cases enough : depth ≤ budget
    · rw [first.answered enough]
      exact second.refused (by omega)
    · obtain ⟨fault, failed, cause⟩ := first.refused (by omega)
      exact ⟨fault, by rw [failed]; rfl, cause⟩

theorem bind_ok {next : α → Except Fault β} (first : Within depth budget answer outcome)
    (second : next answer = .ok other) : Within depth budget other (outcome >>= next) := by
  have both := first.bind (of_eq second)
  rwa [Nat.max_zero] at both

theorem map (first : Within depth budget answer outcome) (f : α → β) :
    Within depth budget (f answer) (outcome.map f) where
  answered enough := by
    rw [first.answered enough]
    rfl
  refused exceeded := by
    obtain ⟨fault, failed, cause⟩ := first.refused exceeded
    exact ⟨fault, by rw [failed]; rfl, cause⟩

/-- A bracket takes one from the budget. -/
theorem enter {next : { inner : Nat // inner < budget } → Except Fault α}
    (inside : ∀ inner (h : inner < budget), Within depth inner answer (next ⟨inner, h⟩)) :
    Within (depth + 1) budget answer (Json.enter budget start >>= next) := by
  cases budget with
  | zero => exact ⟨fun enough => absurd enough (Nat.not_succ_le_zero _), fun _ => ⟨_, rfl, rfl⟩⟩
  | succ inner =>
    have rest := inside inner (Nat.lt_succ_self inner)
    exact ⟨fun enough => rest.answered (by omega), fun exceeded => rest.refused (by omega)⟩

end Within

namespace Document

/-- The reader answers what the value stands for. -/
def Takes (read : Document → Except Fault α) (budget : Nat) (value : Value) (answer : α) : Prop :=
  ∀ document, document.Shows value → Within value.depth budget answer (read document)

theorem takes_readText (budget : Nat) (text : String) :
    Takes readText budget (.string text) text := by
  rintro _ (closes | _ | _)
  exact .of_eq closes.1

theorem takes_readText? (budget : Nat) (text : String) :
    Takes readText? budget (.string text) (some text) := by
  intro document shows
  have text := (takes_readText budget text document shows).map some
  cases shows with
  | string => exact text

theorem Takes.map {read : Document → Except Fault α} {value : Value}
    (takes : Takes read budget value answer) (f : α → β) :
    Takes (fun document => (read document).map f) budget value (f answer) :=
  fun document shows => (takes document shows).map f

/-! ### Lists -/

theorem within_mapM {read : Item Document → Except Fault α} {print : α → Value} {list : List α}
    {items : List (Item Document)} {inner : Nat}
    (takes : ∀ item : Item Document, ∀ a ∈ list, item.value.Shows (print a) →
      Within (print a).depth inner a (read item))
    (shown : List.Forall₂ (fun (item : Item Document) value => item.value.Shows value) items
      (list.map print)) :
    Within (Value.itemsDepth (list.map print)) inner list (items.mapM read) := by
  induction list generalizing items with
  | nil =>
    obtain rfl := List.forall₂_nil_right_iff.mp shown
    exact .of_eq rfl
  | cons a rest ih =>
    obtain ⟨item, items, first, others, rfl⟩ := List.forall₂_cons_right_iff.mp shown
    have later := ih (fun item b member => takes item b (List.mem_cons_of_mem a member)) others
    rw [List.mapM_cons]
    exact (takes item a List.mem_cons_self first).bind (later.bind_ok rfl)

theorem takes_readList {item : Inner budget α} {print : α → Value} {list : List α}
    (takes : ∀ inner h follow, ∀ a ∈ list, Takes (item inner h follow) inner (print a) a) :
    Takes (readList budget item) budget (.list (list.map print)) list := by
  rintro _ (_ | shown | _)
  refine .enter fun inner h => ?_
  have each := within_mapM (fun i a member => takes inner h i.follow a member i.value) shown
  exact each.bind_ok rfl

/-! ### Records -/

variable {slots : List (Slot budget ρ)} {values : List (String × Value)} {changes : List (ρ → ρ)}
  {inner : Nat} {h : inner < budget}

/-- The slot of the member's name takes its value for the change. -/
def Sets (slots : List (Slot budget ρ)) (inner : Nat) (h : inner < budget)
    (value : String × Value) (change : ρ → ρ) : Prop :=
  ∃ slot, slots.find? (·.name = value.1) = some slot ∧
    ∀ follow, Takes (slot.read inner h follow) inner value.2 change

theorem within_readMembers {members : List (Member Document)} (seen : List String) (record : ρ)
    (sets : List.Forall₂ (Sets slots inner h) values changes)
    (distinct : (values.map (·.1)).Nodup) (fresh : ∀ key ∈ values.map (·.1), key ∉ seen)
    (keys : List.Forall₂ (fun (member : Member Document) value => member.key.Closes value.1)
      members values)
    (shown : List.Forall₂ (fun (member : Member Document) value => member.value.Shows value.2)
      members values) :
    Within (Value.membersDepth values) inner
      ((values.map (·.1)).reverse ++ seen,
        changes.foldl (fun record change => change record) record)
      (readMembers slots inner h seen record members) := by
  induction sets generalizing members seen record with
  | nil =>
    obtain rfl := List.forall₂_nil_right_iff.mp keys
    exact .of_eq rfl
  | @cons value change values changes first others ih =>
    obtain ⟨member, rest, key, keysRest, rfl⟩ := List.forall₂_cons_right_iff.mp keys
    obtain ⟨valueShown, shownRest⟩ := List.forall₂_cons.mp shown
    obtain ⟨slot, found, takes⟩ := first
    obtain ⟨once, distinct⟩ := List.nodup_cons.mp distinct
    obtain ⟨new, fresh⟩ := List.forall_mem_cons.mp fresh
    have freshRest : ∀ key ∈ values.map (·.1), key ∉ value.1 :: seen := by
      intro key member again
      rcases List.mem_cons.mp again with rfl | again
      · exact once member
      · exact fresh key member again
    have later := ih (value.1 :: seen) (change record) distinct freshRest keysRest shownRest
    have opened : readMembers slots inner h seen record (member :: rest) =
        slot.read inner h member.follow member.value >>= fun change =>
          readMembers slots inner h (value.1 :: seen) (change record) rest := by
      rw [readMembers, key.1, ok_bind]
      simp only [found, if_neg new]
    rw [opened, Value.membersDepth_cons, List.map_cons, List.reverse_cons, List.append_assoc,
      List.singleton_append]
    refine (takes member.follow member.value valueShown).bind ?_
    exact later

/-- A record is read from an object with the fields it needs, each of them once. -/
theorem takes_readRecord {expected : String} {blank record : ρ}
    (sets : ∀ inner h, List.Forall₂ (Sets slots inner h) values changes)
    (distinct : (values.map (·.1)).Nodup)
    (complete : ∀ slot ∈ slots, slot.required = true → slot.name ∈ values.map (·.1))
    (filled : changes.foldl (fun record change => change record) blank = record) :
    Takes (readRecord budget expected blank slots) budget (.object values) record := by
  subst filled
  rintro _ (_ | _ | ⟨keys, shown⟩)
  refine .enter fun inner h => ?_
  have members := within_readMembers [] blank (sets inner h) distinct (by simp) keys shown
  refine members.bind_ok ?_
  have needed : slots.find? (fun slot => slot.required &&
      slot.name ∉ (values.map (·.1)).reverse ++ []) = none := by
    rw [List.find?_eq_none]
    intro slot member missing
    rw [Bool.and_eq_true, decide_eq_true_iff, List.append_nil, List.mem_reverse] at missing
    exact missing.2 (complete slot member missing.1)
  dsimp only
  rw [ObjectEnd.fault?, needed]
  rfl

/-! ### Choices -/

variable {variants : List (String × Content budget α)} {name : String} {value : Value}
  {content : Content budget α} {follow : Nat}

theorem findVariant_eq (known : variants.lookup name = some content) (stop : Nat) :
    findVariant variants name stop = .ok content := by
  rw [findVariant, known]

/-- A variant without content is read from its name. -/
theorem takes_readChoice_name (known : variants.lookup name = some (.empty answer)) :
    Takes (readChoice budget variants follow) budget (.string name) answer := by
  rintro _ (closes | _ | _)
  refine .of_eq ?_
  rw [readChoice, closes.1, ok_bind, findVariant_eq known]
  rfl

/-- A variant with content is read from an object with its name and content. -/
theorem takes_readChoice (known : variants.lookup name = some content)
    (takes : ∀ inner h follow, Takes (content.read inner h follow) inner value answer) :
    Takes (readChoice budget variants follow) budget (.object [(name, value)]) answer := by
  rintro _ (_ | _ | ⟨keys, shown⟩)
  obtain ⟨member, rest, key, keysRest, rfl⟩ := List.forall₂_cons_right_iff.mp keys
  obtain rfl := List.forall₂_nil_right_iff.mp keysRest
  obtain ⟨valueShown, -⟩ := List.forall₂_cons.mp shown
  have depth : (Value.object [(name, value)]).depth = value.depth + 1 := by
    rw [Value.depth, Value.membersDepth_cons, Value.membersDepth, Nat.max_zero]
  rw [depth]
  refine .enter fun inner h => ?_
  dsimp only
  rw [key.1, ok_bind, findVariant_eq known, ok_bind]
  exact (takes inner h member.follow member.value valueShown).bind_ok rfl

end Document

end TreeSchema.Json
