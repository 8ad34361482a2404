import TreeSchema.Proofs.Json.Accepted
import TreeSchema.Proofs.Json.Parsing

/-!
Readers and places. What a reader answers depends on what a document says and not on where, and it
answers to documents without a flaw only.
-/

namespace TreeSchema.Json

variable {α β ρ : Type} {budget inner : Nat} {parts : List Part} {text : String}

/-! ### Documents without places -/

/-- A closed string at no place. -/
def bodyOf (parts : List Part) : Body :=
  ⟨parts.map (·, 0), .closed 0⟩

namespace Tree

mutual

/-- The document of a tree at no place. -/
def document : Tree → Document
  | word w => .scalar (.word w) 0 0
  | numeral n => .scalar (.numeral n) 0 0
  | string parts => .scalar (.string (bodyOf parts)) 0 0
  | list items => .list 0 (itemDocuments items) (.closed 0)
  | object members => .object 0 (memberDocuments members) (.closed 0)

def itemDocuments : List Tree → List (Item Document)
  | [] => []
  | item :: rest => ⟨item.document, 0⟩ :: itemDocuments rest

def memberDocuments : List (List Part × Tree) → List (Member Document)
  | [] => []
  | (key, value) :: rest => ⟨bodyOf key, 0, 0, value.document, 0⟩ :: memberDocuments rest

end

end Tree

theorem skipFault?_eq_none_iff {ending : BodyEnd} :
    ending.skipFault? = none ↔ ending.fault? = none := by
  cases ending <;> simp [BodyEnd.skipFault?, BodyEnd.fault?]

theorem decodeParts_eq_ok_iff {ending : BodyEnd} {parts : List (Part × Nat)} {chars : List Char} :
    decodeParts ending parts = .ok chars ↔
      ending.skipFault? = none ∧ meaning? (parts.map (·.1)) = some chars := by
  have one (c : Char) {rest : List (Part × Nat)} {chars : List Char}
      (ih : ∀ {chars}, decodeParts ending rest = .ok chars ↔
        ending.skipFault? = none ∧ meaning? (rest.map (·.1)) = some chars) :
      (decodeParts ending rest).map (c :: ·) = .ok chars ↔
        ending.skipFault? = none ∧ (meaning? (rest.map (·.1))).map (c :: ·) = some chars := by
    rw [map_eq_ok_iff, Option.map_eq_some_iff]
    simp only [ih, and_assoc, exists_and_left]
  fun_induction decodeParts generalizing chars with
  | case1 sound => simp [skipFault?_eq_none_iff, sound, meaning?]
  | case2 fault flawed => simp [skipFault?_eq_none_iff, flawed]
  | case3 c stop rest ih | case4 c stop rest ih => exact one c ih
  | case5 u stop rest trailing =>
    rw [List.map_cons, meaning?.eq_def]
    simp [trailing]
  | case6 u _ trailing leading | case7 u _ trailing leading | case8 u _ trailing leading =>
    simp [meaning?, trailing, leading]
  | case9 u _ trailing leading v _ rest pairs ih =>
    have meaning : meaning? (.unit u :: .unit v :: rest.map (·.1)) =
        (meaning? (rest.map (·.1))).map (pairChar u v :: ·) := by
      rw [meaning?]
      simp [trailing, leading, pairs]
    rw [List.map_cons, List.map_cons, meaning]
    exact one _ ih
  | case10 u _ trailing leading v _ rest single =>
    have meaning : meaning? (.unit u :: .unit v :: rest.map (·.1)) = none := by
      rw [meaning?]
      simp [trailing, leading, single]
    rw [List.map_cons, List.map_cons, meaning]
    simp
  | case11 u stop rest trailing leading ih =>
    have meaning : meaning? (.unit u :: rest.map (·.1)) =
        (meaning? (rest.map (·.1))).map (Char.ofNat u :: ·) := by
      rw [meaning?.eq_def]
      simp [trailing, leading]
    rw [List.map_cons, meaning]
    exact one _ ih

theorem decode_eq_ok_iff {body : Body} :
    body.decode = .ok text ↔ body.ending.skipFault? = none ∧ Means (body.parts.map (·.1)) text := by
  rw [Body.decode, map_eq_ok_iff]
  constructor
  · rintro ⟨chars, decoded, rfl⟩
    rw [Means, String.toList_ofList]
    exact decodeParts_eq_ok_iff.mp decoded
  · intro known
    exact ⟨text.toList, decodeParts_eq_ok_iff.mpr known, String.ofList_toList⟩

theorem decode_bodyOf_eq_ok_iff : (bodyOf parts).decode = .ok text ↔ Means parts text := by
  rw [decode_eq_ok_iff]
  simp [bodyOf, BodyEnd.skipFault?, BodyEnd.fault?, Function.comp_def]

/-! ### Readers -/

theorem refuse_eq_ok_iff {fault? : Option Fault} : refuse fault? = .ok () ↔ fault? = none := by
  cases fault? with
  | none => simp [refuse]
  | some fault => simp [refuse]

namespace Document

variable {document : Document} {items : List (Item Document)} {members : List (Member Document)}
  {start : Nat}

/-- The reader goes by what a document says, and answers only if it has no flaw. -/
def Settled (read : Nat → Document → Except Fault α) : Prop :=
  ∀ follow document answer, read follow document = .ok answer ↔
    document.skipFault? = none ∧ read 0 document.tree.document = .ok answer

theorem list_sound_iff {ending : ListEnd} :
    (Document.list start items ending).skipFault? = none ↔
      itemFault? items = none ∧ ending.fault? = none := by
  cases ending <;> simp [skipFault?, ListEnd.fault?]

theorem object_sound_iff {ending : ObjectEnd} :
    (Document.object start members ending).skipFault? = none ↔
      memberFault? members = none ∧ ending.fault? = none := by
  cases ending <;> simp [skipFault?, ObjectEnd.fault?]

theorem not_sound_flawed {flaw : Flaw} : (flawed flaw start).skipFault? ≠ none := by
  cases flaw <;> simp [skipFault?]

theorem settled_readText : Settled fun _ => readText := by
  intro follow document answer
  cases document with
  | scalar scalar start stop =>
    cases scalar with
    | word | numeral => exact ⟨nofun, fun ⟨_, read⟩ => nomatch read⟩
    | string body => exact decode_eq_ok_iff.trans (and_congr_right' decode_bodyOf_eq_ok_iff.symm)
  | list | object | flawed => exact ⟨nofun, fun ⟨_, read⟩ => nomatch read⟩

theorem Settled.map {read : Nat → Document → Except Fault α} (settled : Settled read)
    (f : α → β) : Settled fun follow document => (read follow document).map f := by
  intro follow document answer
  rw [map_eq_ok_iff, map_eq_ok_iff]
  simp only [settled follow document, and_assoc, exists_and_left]

theorem settled_readText? : Settled fun _ => readText? := by
  intro follow document answer
  have text := settled_readText.map some follow document answer
  cases document with
  | scalar scalar start stop =>
    cases scalar with
    | word word =>
      cases word with
      | null => exact ⟨fun read => ⟨rfl, read⟩, fun read => read.2⟩
      | true | false => exact text
    | numeral | string => exact text
  | list | object => exact text
  | flawed => exact ⟨nofun, fun read => absurd read.1 not_sound_flawed⟩

/-! ### Lists -/

theorem mapM_eq_ok_iff {read : Nat → Document → Except Fault α} (settled : Settled read)
    {answers : List α} :
    (items.mapM fun i => read i.follow i.value) = .ok answers ↔ itemFault? items = none ∧
      ((Tree.itemDocuments (itemTrees items)).mapM fun i => read i.follow i.value) =
        .ok answers := by
  induction items generalizing answers with
  | nil => simp [itemFault?, itemTrees, Tree.itemDocuments]
  | cons item rest ih =>
    rw [itemTrees, Tree.itemDocuments, List.mapM_cons, List.mapM_cons, bind_eq_ok_iff,
      bind_eq_ok_iff, itemFault?, Option.or_eq_none_iff]
    constructor
    · rintro ⟨first, readFirst, others⟩
      obtain ⟨later, readLater, same⟩ := bind_eq_ok_iff.mp others
      obtain ⟨sound, readFirst⟩ := (settled _ _ _).mp readFirst
      obtain ⟨soundLater, readLater⟩ := ih.mp readLater
      exact ⟨⟨sound, soundLater⟩, first, readFirst, bind_eq_ok_iff.mpr ⟨later, readLater, same⟩⟩
    · rintro ⟨⟨sound, soundLater⟩, first, readFirst, others⟩
      obtain ⟨later, readLater, same⟩ := bind_eq_ok_iff.mp others
      exact ⟨first, (settled _ _ _).mpr ⟨sound, readFirst⟩,
        bind_eq_ok_iff.mpr ⟨later, ih.mpr ⟨soundLater, readLater⟩, same⟩⟩

theorem settled_readList {item : Inner budget α} (each : ∀ inner h, Settled (item inner h)) :
    Settled fun _ => readList budget item := by
  intro follow document answer
  cases document with
  | scalar scalar => cases scalar <;> exact ⟨nofun, fun ⟨_, read⟩ => nomatch read⟩
  | object => exact ⟨nofun, fun ⟨_, read⟩ => nomatch read⟩
  | flawed => exact ⟨nofun, fun read => absurd read.1 not_sound_flawed⟩
  | list start items ending =>
    rw [list_sound_iff]
    constructor
    · intro read
      obtain ⟨inner, h, enough, read⟩ := enter_eq_ok_iff.mp read
      obtain ⟨answers, all, read⟩ := bind_eq_ok_iff.mp read
      obtain ⟨⟨⟩, closed, same⟩ := bind_eq_ok_iff.mp read
      obtain ⟨sound, all⟩ := (mapM_eq_ok_iff (each inner h)).mp all
      refine ⟨⟨sound, refuse_eq_ok_iff.mp closed⟩, enter_eq_ok_iff.mpr ⟨inner, h, enough, ?_⟩⟩
      exact bind_eq_ok_iff.mpr ⟨answers, all, same⟩
    · rintro ⟨⟨sound, closed⟩, read⟩
      obtain ⟨inner, h, enough, read⟩ := enter_eq_ok_iff.mp read
      obtain ⟨answers, all, same⟩ := bind_eq_ok_iff.mp read
      refine enter_eq_ok_iff.mpr ⟨inner, h, enough, bind_eq_ok_iff.mpr ⟨answers, ?_, ?_⟩⟩
      · exact (mapM_eq_ok_iff (each inner h)).mpr ⟨sound, all⟩
      · exact bind_eq_ok_iff.mpr ⟨(), refuse_eq_ok_iff.mpr closed, same⟩

/-! ### Records -/

section Records

variable {slots : List (Slot budget ρ)} {h : inner < budget} {seen met : List String}
  {record filled : ρ}

/-- What reading a member does to the fields that have been met and to the record. -/
inductive Advances (slots : List (Slot budget ρ)) (inner : Nat) (h : inner < budget)
    (seen : List String) (record : ρ) (member : Member Document) : List String → ρ → Prop
  | skip {key : String} (named : member.key.decode = .ok key)
    (unknown : slots.find? (·.name = key) = none) (sound : member.value.skipFault? = none) :
    Advances slots inner h seen record member seen record
  | read {key : String} {slot : Slot budget ρ} {change : ρ → ρ}
    (named : member.key.decode = .ok key) (known : slots.find? (·.name = key) = some slot)
    (fresh : key ∉ seen) (read : slot.read inner h member.follow member.value = .ok change) :
    Advances slots inner h seen record member (key :: seen) (change record)

theorem readMembers_cons_eq_ok_iff {member : Member Document} :
    readMembers slots inner h seen record (member :: members) = .ok (met, filled) ↔
      ∃ next changed, Advances slots inner h seen record member next changed ∧
        readMembers slots inner h next changed members = .ok (met, filled) := by
  rw [readMembers, bind_eq_ok_iff]
  constructor
  · rintro ⟨key, named, read⟩
    split at read
    next unknown =>
      obtain ⟨⟨⟩, sound, read⟩ := bind_eq_ok_iff.mp read
      exact ⟨_, _, .skip named unknown (refuse_eq_ok_iff.mp sound), read⟩
    next slot known =>
      split at read
      next => cases read
      next fresh =>
        obtain ⟨change, changed, read⟩ := bind_eq_ok_iff.mp read
        exact ⟨_, _, .read named known fresh changed, read⟩
  · rintro ⟨next, changed, advances, read⟩
    cases advances with
    | @skip key named unknown sound =>
      refine ⟨key, named, ?_⟩
      simp only [unknown]
      exact bind_eq_ok_iff.mpr ⟨(), refuse_eq_ok_iff.mpr sound, read⟩
    | @read key slot change named known fresh changed =>
      refine ⟨key, named, ?_⟩
      simp only [known, if_neg fresh]
      exact bind_eq_ok_iff.mpr ⟨change, changed, read⟩

mutual

theorem skipFault?_document : (tree : Tree) → tree.document.skipFault? = none
  | .word _ | .numeral _ | .string _ => rfl
  | .list items => list_sound_iff.mpr ⟨itemFault?_documents items, rfl⟩
  | .object members => object_sound_iff.mpr ⟨memberFault?_documents members, rfl⟩

theorem itemFault?_documents : (items : List Tree) → itemFault? (Tree.itemDocuments items) = none
  | [] => rfl
  | item :: rest => by
    rw [Tree.itemDocuments, itemFault?, skipFault?_document item, itemFault?_documents rest]
    rfl

theorem memberFault?_documents : (members : List (List Part × Tree)) →
    memberFault? (Tree.memberDocuments members) = none
  | [] => rfl
  | (_, value) :: rest => by
    rw [Tree.memberDocuments, memberFault?, skipFault?_document value, memberFault?_documents rest]
    rfl

end

/-- The member at no place. -/
def plain (member : Member Document) : Member Document :=
  ⟨bodyOf (member.key.parts.map (·.1)), 0, 0, member.value.tree.document, 0⟩

theorem advances_iff (each : ∀ slot ∈ slots, ∀ inner h, Settled (slot.read inner h))
    {member : Member Document} {next : List String} {changed : ρ} :
    Advances slots inner h seen record member next changed ↔
      (member.key.ending.skipFault? = none ∧ member.value.skipFault? = none) ∧
        Advances slots inner h seen record (plain member) next changed := by
  constructor
  · intro advances
    cases advances with
    | skip named unknown sound =>
      obtain ⟨closed, means⟩ := decode_eq_ok_iff.mp named
      exact ⟨⟨closed, sound⟩, .skip (decode_bodyOf_eq_ok_iff.mpr means) unknown
        (skipFault?_document _)⟩
    | read named known fresh read =>
      obtain ⟨closed, means⟩ := decode_eq_ok_iff.mp named
      have settled := each _ (List.mem_of_find?_eq_some known) inner h
      obtain ⟨sound, read⟩ := (settled _ _ _).mp read
      exact ⟨⟨closed, sound⟩, .read (decode_bodyOf_eq_ok_iff.mpr means) known fresh read⟩
  · rintro ⟨⟨closed, sound⟩, advances⟩
    cases advances with
    | skip named unknown =>
      exact .skip (decode_eq_ok_iff.mpr ⟨closed, decode_bodyOf_eq_ok_iff.mp named⟩) unknown sound
    | read named known fresh read =>
      have settled := each _ (List.mem_of_find?_eq_some known) inner h
      exact .read (decode_eq_ok_iff.mpr ⟨closed, decode_bodyOf_eq_ok_iff.mp named⟩) known fresh
        ((settled _ _ _).mpr ⟨sound, read⟩)

theorem readMembers_eq_ok_iff (each : ∀ slot ∈ slots, ∀ inner h, Settled (slot.read inner h)) :
    readMembers slots inner h seen record members = .ok (met, filled) ↔
      memberFault? members = none ∧ readMembers slots inner h seen record
        (Tree.memberDocuments (memberTrees members)) = .ok (met, filled) := by
  induction members generalizing seen record with
  | nil => simp [memberFault?, memberTrees, Tree.memberDocuments]
  | cons member rest ih =>
    rw [readMembers_cons_eq_ok_iff, memberTrees, Tree.memberDocuments, readMembers_cons_eq_ok_iff,
      memberFault?, Option.or_eq_none_iff, Option.or_eq_none_iff]
    constructor
    · rintro ⟨next, changed, advances, read⟩
      obtain ⟨sound, advances⟩ := (advances_iff each).mp advances
      obtain ⟨soundRest, read⟩ := ih.mp read
      exact ⟨⟨sound, soundRest⟩, next, changed, advances, read⟩
    · rintro ⟨⟨sound, soundRest⟩, next, changed, advances, read⟩
      exact ⟨next, changed, (advances_iff each).mpr ⟨sound, advances⟩, ih.mpr ⟨soundRest, read⟩⟩

theorem surplusFault?_eq_none_iff {ending : ListEnd} :
    ending.surplusFault? = none ↔ ending.fault? = none := by
  cases ending <;> simp [ListEnd.surplusFault?, ListEnd.fault?]

theorem readElements_eq_ok_iff (each : ∀ slot ∈ slots, ∀ inner h, Settled (slot.read inner h))
    (expected : String) {ending : ListEnd} {n : Nat} :
    readElements expected inner h ending n record slots items = .ok filled ↔
      (itemFault? items = none ∧ ending.fault? = none) ∧
        readElements expected inner h (.closed 0) n record slots
          (Tree.itemDocuments (itemTrees items)) = .ok filled := by
  induction slots generalizing n record items with
  | nil =>
    cases items with
    | nil =>
      rw [readElements, bind_eq_ok_iff]
      constructor
      · rintro ⟨⟨⟩, closed, same⟩
        exact ⟨⟨rfl, surplusFault?_eq_none_iff.mp (refuse_eq_ok_iff.mp closed)⟩, same⟩
      · rintro ⟨⟨-, closed⟩, same⟩
        exact ⟨(), refuse_eq_ok_iff.mpr (surplusFault?_eq_none_iff.mpr closed), same⟩
    | cons item items => exact ⟨nofun, fun ⟨_, read⟩ => nomatch read⟩
  | cons slot slots ih =>
    obtain ⟨settled, each⟩ := List.forall_mem_cons.mp each
    cases items with
    | nil =>
      rw [readElements, bind_eq_ok_iff]
      constructor
      · rintro ⟨⟨⟩, closed, read⟩
        split at read
        next => cases read
        next optional =>
          obtain ⟨-, read⟩ := (ih each).mp read
          refine ⟨⟨rfl, refuse_eq_ok_iff.mp closed⟩, ?_⟩
          rw [itemTrees, Tree.itemDocuments, readElements, if_neg optional]
          exact read
      · rintro ⟨⟨-, closed⟩, read⟩
        obtain ⟨⟨⟩, -, read⟩ := bind_eq_ok_iff.mp read
        refine ⟨(), refuse_eq_ok_iff.mpr closed, ?_⟩
        split at read
        next => cases read
        next optional =>
          rw [if_neg optional]
          exact (ih each).mpr ⟨⟨rfl, closed⟩, read⟩
    | cons item items =>
      rw [itemTrees, Tree.itemDocuments, readElements, readElements, bind_eq_ok_iff, bind_eq_ok_iff,
        itemFault?, Option.or_eq_none_iff]
      constructor
      · rintro ⟨change, changed, read⟩
        obtain ⟨sound, changed⟩ := (settled inner h _ _ _).mp changed
        obtain ⟨⟨soundRest, closed⟩, read⟩ := (ih each).mp read
        exact ⟨⟨⟨sound, soundRest⟩, closed⟩, change, changed, read⟩
      · rintro ⟨⟨⟨sound, soundRest⟩, closed⟩, change, changed, read⟩
        exact ⟨change, (settled inner h _ _ _).mpr ⟨sound, changed⟩,
          (ih each).mpr ⟨⟨soundRest, closed⟩, read⟩⟩

theorem readRecord_object_eq_ok_iff {expected : String} {blank : ρ} {ending : ObjectEnd} :
    readRecord budget expected blank slots (.object start members ending) = .ok filled ↔
      ending.fault? = none ∧ ∃ inner, ∃ h : inner < budget, inner + 1 = budget ∧ ∃ met,
        readMembers slots inner h [] blank members = .ok (met, filled) ∧
        ∀ slot ∈ slots, slot.required = true → slot.name ∈ met := by
  constructor
  · intro read
    obtain ⟨inner, h, enough, read⟩ := enter_eq_ok_iff.mp read
    obtain ⟨⟨met, record⟩, members, read⟩ := bind_eq_ok_iff.mp read
    obtain ⟨⟨⟩, closed, read⟩ := bind_eq_ok_iff.mp read
    split at read
    next => cases read
    next complete =>
      obtain rfl := Except.ok.inj read
      refine ⟨refuse_eq_ok_iff.mp closed, inner, h, enough, met, members, ?_⟩
      intro slot member required
      simpa [required] using List.find?_eq_none.mp complete slot member
  · rintro ⟨closed, inner, h, enough, met, read, complete⟩
    refine enter_eq_ok_iff.mpr ⟨inner, h, enough, bind_eq_ok_iff.mpr ⟨_, read, ?_⟩⟩
    refine bind_eq_ok_iff.mpr ⟨(), refuse_eq_ok_iff.mpr closed, ?_⟩
    have none : slots.find? (fun slot => slot.required && slot.name ∉ met) = none := by
      rw [List.find?_eq_none]
      intro slot member missing
      rw [Bool.and_eq_true, decide_eq_true_iff] at missing
      exact missing.2 (complete slot member missing.1)
    simp only [none]

/-- A record is read from what a document says. -/
theorem settled_readRecord (each : ∀ slot ∈ slots, ∀ inner h, Settled (slot.read inner h))
    (expected : String) (blank : ρ) :
    Settled fun _ => readRecord budget expected blank slots := by
  intro follow document answer
  cases document with
  | scalar scalar => cases scalar <;> exact ⟨nofun, fun ⟨_, read⟩ => nomatch read⟩
  | flawed => exact ⟨nofun, fun read => absurd read.1 not_sound_flawed⟩
  | list start items ending =>
    rw [list_sound_iff]
    constructor
    · intro read
      obtain ⟨inner, h, enough, read⟩ := enter_eq_ok_iff.mp read
      obtain ⟨sound, read⟩ := (readElements_eq_ok_iff each _).mp read
      exact ⟨sound, enter_eq_ok_iff.mpr ⟨inner, h, enough, read⟩⟩
    · rintro ⟨sound, read⟩
      obtain ⟨inner, h, enough, read⟩ := enter_eq_ok_iff.mp read
      refine enter_eq_ok_iff.mpr ⟨inner, h, enough, ?_⟩
      exact (readElements_eq_ok_iff each _).mpr ⟨sound, read⟩
  | object start members ending =>
    rw [object_sound_iff, Document.tree, Tree.document, readRecord_object_eq_ok_iff,
      readRecord_object_eq_ok_iff]
    constructor
    · rintro ⟨closed, inner, h, enough, met, read, complete⟩
      obtain ⟨sound, read⟩ := (readMembers_eq_ok_iff each).mp read
      exact ⟨⟨sound, closed⟩, rfl, inner, h, enough, met, read, complete⟩
    · rintro ⟨⟨sound, closed⟩, -, inner, h, enough, met, read, complete⟩
      have read := (readMembers_eq_ok_iff each).mpr ⟨sound, read⟩
      exact ⟨closed, inner, h, enough, met, read, complete⟩

end Records

/-! ### Choices -/

section Choices

variable {variants : List (String × Content budget α)} {content : Content budget α}
  {name : String} {follow stop : Nat} {answer : α}

theorem findVariant_eq_ok_iff :
    findVariant variants name stop = .ok content ↔ variants.lookup name = some content := by
  unfold findVariant
  cases variants.lookup name <;> simp

theorem mem_of_lookup (known : variants.lookup name = some content) :
    (name, content) ∈ variants :=
  mem_of_findVariant (findVariant_eq known 0)

theorem alone_eq_ok_iff : content.alone follow = .ok answer ↔ content = .empty answer := by
  cases content <;> simp [Content.alone]

theorem readChoice_string_eq_ok_iff {body : Body} {start : Nat} :
    readChoice budget variants follow (.scalar (.string body) start stop) = .ok answer ↔
      ∃ name, body.decode = .ok name ∧ variants.lookup name = some (.empty answer) := by
  constructor
  · intro read
    obtain ⟨name, named, read⟩ := bind_eq_ok_iff.mp read
    obtain ⟨content, found, alone⟩ := bind_eq_ok_iff.mp read
    obtain rfl := alone_eq_ok_iff.mp alone
    exact ⟨name, named, findVariant_eq_ok_iff.mp found⟩
  · rintro ⟨name, named, known⟩
    refine bind_eq_ok_iff.mpr ⟨name, named, bind_eq_ok_iff.mpr ⟨.empty answer, ?_, rfl⟩⟩
    exact findVariant_eq_ok_iff.mpr known

theorem readChoice_object_eq_ok_iff {ending : ObjectEnd} :
    readChoice budget variants follow (.object start members ending) = .ok answer ↔
      ∃ inner, ∃ h : inner < budget, inner + 1 = budget ∧ ∃ member name content,
        members = [member] ∧ ending.fault? = none ∧ member.key.decode = .ok name ∧
        variants.lookup name = some content ∧
        content.read inner h member.follow member.value = .ok answer := by
  constructor
  · intro read
    obtain ⟨inner, h, enough, read⟩ := enter_eq_ok_iff.mp read
    refine ⟨inner, h, enough, ?_⟩
    cases members with
    | nil =>
      obtain ⟨⟨⟩, -, read⟩ := bind_eq_ok_iff.mp read
      cases read
    | cons member rest =>
      obtain ⟨name, named, read⟩ := bind_eq_ok_iff.mp read
      obtain ⟨content, found, read⟩ := bind_eq_ok_iff.mp read
      obtain ⟨value, answered, read⟩ := bind_eq_ok_iff.mp read
      obtain ⟨⟨⟩, closed, same⟩ := bind_eq_ok_iff.mp read
      obtain rfl := Except.ok.inj same
      have closed := refuse_eq_ok_iff.mp closed
      unfold variantEnd at closed
      split at closed
      next =>
        have known := findVariant_eq_ok_iff.mp found
        exact ⟨member, name, content, rfl, rfl, named, known, answered⟩
      next => cases closed
      next => cases closed
  · rintro ⟨inner, h, enough, member, name, content, rfl, closed, named, found, answered⟩
    refine enter_eq_ok_iff.mpr ⟨inner, h, enough, ?_⟩
    refine bind_eq_ok_iff.mpr ⟨name, named, bind_eq_ok_iff.mpr ⟨content, ?_, ?_⟩⟩
    · exact findVariant_eq_ok_iff.mpr found
    · refine bind_eq_ok_iff.mpr ⟨answer, answered, bind_eq_ok_iff.mpr ⟨(), ?_, rfl⟩⟩
      cases ending <;> simp_all [ObjectEnd.fault?, variantEnd, refuse]

theorem settled_read_empty {result : α} {h : inner < budget} :
    Settled ((Content.empty result : Content budget α).read inner h) := by
  intro follow document answer
  cases document with
  | scalar scalar start stop =>
    cases scalar with
    | word word =>
      cases word with
      | null => exact ⟨fun read => ⟨rfl, read⟩, fun read => read.2⟩
      | true | false => exact ⟨nofun, fun ⟨_, read⟩ => nomatch read⟩
    | numeral | string => exact ⟨nofun, fun ⟨_, read⟩ => nomatch read⟩
  | list | object => exact ⟨nofun, fun ⟨_, read⟩ => nomatch read⟩
  | flawed => exact ⟨nofun, fun read => absurd read.1 not_sound_flawed⟩

theorem exists_of_memberDocuments {members : List (Member Document)} {other : Member Document}
    (same : Tree.memberDocuments (memberTrees members) = [other]) :
    ∃ member, members = [member] ∧ plain member = other := by
  match members with
  | [] => cases same
  | [member] => exact ⟨member, rfl, (List.cons.inj same).1⟩
  | first :: second :: rest => cases same

theorem settled_readChoice
    (each : ∀ variant ∈ variants, ∀ inner h, Settled (variant.2.read inner h)) :
    Settled (readChoice budget variants) := by
  intro follow document answer
  cases document with
  | list => exact ⟨nofun, fun ⟨_, read⟩ => nomatch read⟩
  | flawed flaw start =>
    exact ⟨by cases flaw <;> exact nofun, fun read => absurd read.1 not_sound_flawed⟩
  | scalar scalar start stop =>
    cases scalar with
    | word | numeral => exact ⟨nofun, fun ⟨_, read⟩ => nomatch read⟩
    | string body =>
      rw [Document.tree, Tree.document, readChoice_string_eq_ok_iff, readChoice_string_eq_ok_iff]
      constructor
      · rintro ⟨name, named, known⟩
        obtain ⟨closed, means⟩ := decode_eq_ok_iff.mp named
        exact ⟨closed, name, decode_bodyOf_eq_ok_iff.mpr means, known⟩
      · rintro ⟨closed, name, named, known⟩
        exact ⟨name, decode_eq_ok_iff.mpr ⟨closed, decode_bodyOf_eq_ok_iff.mp named⟩, known⟩
  | object start members ending =>
    rw [object_sound_iff, Document.tree, Tree.document, readChoice_object_eq_ok_iff,
      readChoice_object_eq_ok_iff]
    constructor
    · rintro ⟨inner, h, enough, member, name, content, rfl, closed, named, found, read⟩
      obtain ⟨unbroken, means⟩ := decode_eq_ok_iff.mp named
      obtain ⟨sound, read⟩ := (each _ (mem_of_lookup found) inner h _ _ _).mp read
      refine ⟨⟨?_, closed⟩, inner, h, enough, plain member, name, content, rfl, rfl,
        decode_bodyOf_eq_ok_iff.mpr means, found, read⟩
      rw [memberFault?, unbroken, sound]
      rfl
    · rintro ⟨⟨sound, closed⟩, inner, h, enough, other, name, content, same, -, named, found, read⟩
      obtain ⟨member, rfl, rfl⟩ := exists_of_memberDocuments same
      rw [memberFault?, memberFault?, Option.or_none, Option.or_eq_none_iff] at sound
      obtain ⟨unbroken, sound⟩ := sound
      refine ⟨inner, h, enough, member, name, content, rfl, closed, ?_, found, ?_⟩
      · exact decode_eq_ok_iff.mpr ⟨unbroken, decode_bodyOf_eq_ok_iff.mp named⟩
      · exact (each _ (mem_of_lookup found) inner h _ _ _).mpr ⟨sound, read⟩

end Choices

end Document

end TreeSchema.Json
