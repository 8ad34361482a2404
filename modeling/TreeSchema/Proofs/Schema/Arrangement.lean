import Mathlib.Logic.Relation
import TreeSchema.Proofs.Json.Members

/-!
Arrangements of a schema's text. An object that stands for a record may have its members in any
order, members of other names among them, and members that say what the record holds anyway.
-/

namespace TreeSchema.Json

/-- What an object with fields stands for. -/
inductive RecordKind where
  | schema
  | collaborators
  | category
  | node
  | field
  | template
  | forEach
  | ifPresent
  deriving DecidableEq

/-- What an object with the name of a variant stands for. -/
inductive ChoiceKind where
  | render
  | op
  deriving DecidableEq

/-- What a value stands for. Plain values have no records in them. -/
inductive Kind where
  | plain
  | list (item : Kind)
  | record (kind : RecordKind)
  | choice (kind : ChoiceKind)
  deriving DecidableEq

/-- The names of the fields in their order, with what their values stand for. -/
def RecordKind.fields : RecordKind → List (String × Kind)
  | schema => [
    ("collaborators", .record .collaborators), ("categories", .list (.record .category))]
  | collaborators => [
    ("token", .plain), ("lexeme", .plain), ("atom", .plain), ("arena", .plain),
    ("sequence", .plain), ("sibling_prefix", .plain)]
  | category => [("name", .plain), ("module", .plain), ("nodes", .list (.record .node))]
  | node => [
    ("name", .plain), ("tag", .plain), ("fields", .list (.record .field)),
    ("render", .choice .render)]
  | field => [("name", .plain), ("type", .plain)]
  | template => [("format", .plain), ("args", .plain)]
  | forEach => [("field", .plain), ("body", .list (.choice .op)), ("separator", .plain)]
  | ifPresent => [("field", .plain), ("then", .list (.choice .op))]

theorem RecordKind.fields_nodup (kind : RecordKind) : (kind.fields.map (·.1)).Nodup := by
  cases kind <;> decide

/-- The names of the variants, with what their contents stand for. -/
def ChoiceKind.variants : ChoiceKind → List (String × Kind)
  | render => [("template", .record .template), ("custom", .list (.choice .op))]
  | op => [
    ("literal", .plain), ("field", .plain), ("item", .plain), ("for_each", .record .forEach),
    ("if_present", .record .ifPresent)]

theorem ChoiceKind.variants_nodup (kind : ChoiceKind) : (kind.variants.map (·.1)).Nodup := by
  cases kind <;> decide

/-- What the collaborators are unless the text has others. -/
def presets : List (String × String) := [
  ("token", "crate::token::Token"), ("lexeme", "lexeme"), ("atom", "crate::intern::StringAtom"),
  ("arena", "bumpalo::Bump"), ("sequence", "bumpalo::collections::Vec"),
  ("sibling_prefix", "super")]

/-- The tree is a string that stands for the text. -/
def Tree.Spells (tree : Tree) (text : String) : Prop :=
  ∃ parts, tree = .string parts ∧ Means parts text

/-- The value of the field is what the record holds without it. Collaborators that are all left out
may be an object or a list, and in a list the last ones may be left out. -/
inductive RecordKind.IsDefault : RecordKind → String → Tree → Prop
  | noCollaborators : IsDefault .schema "collaborators" (.object [])
  | collaborators {items : List Tree}
    (texts : ∀ (i : Nat) (item : Tree), items[i]? = some item →
      ∃ name text, presets[i]? = some (name, text) ∧ item.Spells text) :
    IsDefault .schema "collaborators" (.list items)
  | collaborator {name text : String} {value : Tree} (known : (name, text) ∈ presets)
    (same : value.Spells text) : IsDefault .collaborators name value
  | module : IsDefault .category "module" (.word .null)
  | fields : IsDefault .node "fields" (.list [])
  | separator {value : Tree} (empty : value.Spells "") : IsDefault .forEach "separator" value

/-- One change of a text that makes no difference to what stands in it. -/
inductive Rearranges : Kind → Tree → Tree → Prop
  | order {kind : RecordKind} {members others : List (List Part × Tree)}
    (same : members.Perm others) :
    Rearranges (.record kind) (.object members) (.object others)
  | unknown {kind : RecordKind} {members : List (List Part × Tree)} {key : List Part}
    {name : String} {value : Tree} (means : Means key name)
    (unknown : name ∉ kind.fields.map (·.1)) :
    Rearranges (.record kind) (.object members) (.object ((key, value) :: members))
  | default {kind : RecordKind} {members : List (List Part × Tree)} {key : List Part}
    {name : String} {value : Tree} (means : Means key name)
    (absent : ∀ member ∈ members, ¬Means member.1 name) (same : kind.IsDefault name value) :
    Rearranges (.record kind) (.object members) (.object ((key, value) :: members))
  | member {kind : RecordKind} {members : List (List Part × Tree)} {key : List Part}
    {name : String} {inside : Kind} {value other : Tree} (means : Means key name)
    (known : (name, inside) ∈ kind.fields) (change : Rearranges inside value other) :
    Rearranges (.record kind) (.object ((key, value) :: members))
      (.object ((key, other) :: members))
  | element {kind : RecordKind} {front back : List Tree} {name : String} {inside : Kind}
    {value other : Tree} (known : kind.fields[front.length]? = some (name, inside))
    (change : Rearranges inside value other) :
    Rearranges (.record kind) (.list (front ++ value :: back)) (.list (front ++ other :: back))
  | item {inside : Kind} {front back : List Tree} {value other : Tree}
    (change : Rearranges inside value other) :
    Rearranges (.list inside) (.list (front ++ value :: back)) (.list (front ++ other :: back))
  | content {kind : ChoiceKind} {key : List Part} {name : String} {inside : Kind}
    {value other : Tree} (means : Means key name) (known : (name, inside) ∈ kind.variants)
    (change : Rearranges inside value other) :
    Rearranges (.choice kind) (.object [(key, value)]) (.object [(key, other)])

/-- The trees say the same of what they stand for, after any number of changes to and fro. -/
def Relaid (kind : Kind) : Tree → Tree → Prop :=
  Relation.EqvGen (Rearranges kind)

theorem Relaid.head {kind : Kind} {tree between other : Tree}
    (change : Rearranges kind tree between) (relaid : Relaid kind between other) :
    Relaid kind tree other :=
  .trans tree between other (.rel tree between change) relaid

namespace Document

open TreeSchema.Json.Tree

variable {α β ρ : Type} {budget inner : Nat} {kind : Kind} {tree other : Tree}

/-- The reader goes by what a document says, and not by its arrangement. -/
structure Follows (kind : Kind) (read : Nat → Document → Except Fault α) : Prop where
  settled : Settled read
  same {tree other : Tree} (change : Rearranges kind tree other) (answer : α) :
    read 0 tree.document = .ok answer ↔ read 0 other.document = .ok answer

theorem Follows.of_settled {read : Nat → Document → Except Fault α} (settled : Settled read) :
    Follows .plain read where
  settled := settled
  same change := nomatch change

theorem Follows.map {read : Nat → Document → Except Fault α} (follows : Follows kind read)
    (f : α → β) : Follows kind fun follow document => (read follow document).map f where
  settled := follows.settled.map f
  same change answer := by
    simp only [map_eq_ok_iff, follows.same change]

theorem Follows.relaid {read : Nat → Document → Except Fault α} (follows : Follows kind read)
    (relaid : Relaid kind tree other) (answer : α) :
    read 0 tree.document = .ok answer ↔ read 0 other.document = .ok answer := by
  induction relaid with
  | rel tree other change => exact follows.same change answer
  | refl tree => exact Iff.rfl
  | symm tree other _ ih => exact ih.symm
  | trans first second third _ _ ih ih' => exact ih.trans ih'

/-! ### Lists -/

theorem follows_readList {item : Inner budget α} (each : ∀ inner h, Follows kind (item inner h)) :
    Follows (.list kind) fun _ => readList budget item where
  settled := settled_readList fun inner h => (each inner h).settled
  same change answer := by
    cases change with
    | item change =>
      rw [Tree.document, Tree.document, readList, readList, enter_eq_ok_iff, enter_eq_ok_iff]
      refine exists_congr fun inner => exists_congr fun h => and_congr_right fun _ => ?_
      rw [bind_eq_ok_iff, bind_eq_ok_iff]
      refine exists_congr fun answers => and_congr_left fun _ => ?_
      exact mapM_congr ((each inner h).same change)

/-! ### Records -/

section Records

variable {kind : RecordKind} {slots : List (Slot budget ρ)} {fields : List (String × Kind)}
  {expected : String} {blank : ρ} {name : String} {inside : Kind}

/-- The slot reads the field, whatever its arrangement. -/
def Fills (slot : Slot budget ρ) (field : String × Kind) : Prop :=
  slot.name = field.1 ∧ ∀ inner h, Follows field.2 (slot.read inner h)

theorem names_of_fills (fills : List.Forall₂ Fills slots fields) :
    slots.map (·.name) = fields.map (·.1) := by
  induction fills with
  | nil => rfl
  | cons first _ ih => rw [List.map_cons, List.map_cons, first.1, ih]

theorem settled_of_fills (fills : List.Forall₂ Fills slots fields) :
    ∀ slot ∈ slots, ∀ inner h, Settled (slot.read inner h) := by
  induction fills with
  | nil => exact nofun
  | cons first _ ih => exact List.forall_mem_cons.mpr ⟨fun inner h => (first.2 inner h).settled, ih⟩

theorem exists_slot (fills : List.Forall₂ Fills slots fields) (distinct : (fields.map (·.1)).Nodup)
    (known : (name, inside) ∈ fields) : ∃ slot, slots.find? (·.name = name) = some slot ∧
      ∀ inner h, Follows inside (slot.read inner h) := by
  induction fills with
  | nil => cases known
  | @cons slot field slots fields first others ih =>
    obtain ⟨once, distinct⟩ := List.nodup_cons.mp distinct
    rcases List.mem_cons.mp known with rfl | known
    · exact ⟨slot, List.find?_cons_of_pos (by simp [first.1]), first.2⟩
    · obtain ⟨found, sought, follows⟩ := ih distinct known
      have different : slot.name ≠ name := by
        rw [first.1]
        rintro rfl
        exact once (List.mem_map.mpr ⟨_, known, rfl⟩)
      exact ⟨found, by rwa [List.find?_cons_of_neg (by simpa using different)], follows⟩

theorem find?_eq_none_of_fills (fills : List.Forall₂ Fills slots fields)
    (unknown : name ∉ fields.map (·.1)) : slots.find? (·.name = name) = none := by
  rw [← names_of_fills fills, List.mem_map] at unknown
  rw [List.find?_eq_none]
  intro slot member named
  exact unknown ⟨slot, member, of_decide_eq_true named⟩

/-- A value that the record holds anyway is read by a slot that is not needed, once a record has
been read with the budget. -/
def Keeps (kind : RecordKind) (expected : String) (blank : ρ) (slots : List (Slot budget ρ)) :
    Prop :=
  ∀ name value, kind.IsDefault name value →
    (∀ slot ∈ slots, slot.required = true → slot.name ≠ name) ∧
    ∀ document filled, readRecord budget expected blank slots document = .ok filled →
      ∀ inner h, inner + 1 = budget → ∃ slot, slots.find? (·.name = name) = some slot ∧
        ∃ change, slot.read inner h 0 value.document = .ok change ∧ change blank = blank

theorem Keeps.completes_iff {key : List Part} {value : Tree} {members : List (List Part × Tree)}
    {document : Document} {filled : ρ} (keeps : Keeps kind expected blank slots)
    (same : kind.IsDefault name value) (means : Means key name)
    (absent : ∀ member ∈ members, ¬Means member.1 name)
    (read : readRecord budget expected blank slots document = .ok filled) (h : inner < budget)
    (enough : inner + 1 = budget) :
    Completes slots inner h [] blank ((key, value) :: members) filled ↔
      Completes slots inner h [] blank members filled := by
  obtain ⟨optional, kept⟩ := keeps name value same
  obtain ⟨slot, known, change, changed, unchanged⟩ := kept document filled read inner h enough
  exact completes_default_iff means absent known optional List.not_mem_nil changed unchanged

theorem follows_readRecord (fills : List.Forall₂ Fills slots kind.fields)
    (apart : slots.Pairwise Apart) (keeps : Keeps kind expected blank slots) :
    Follows (.record kind) fun _ => readRecord budget expected blank slots where
  settled := settled_readRecord (settled_of_fills fills) expected blank
  same change answer := by
    cases change with
    | order same =>
      rw [readRecord_object_document, readRecord_object_document]
      constructor
      · rintro ⟨inner, h, enough, completes⟩
        exact ⟨inner, h, enough, completes.perm apart same⟩
      · rintro ⟨inner, h, enough, completes⟩
        exact ⟨inner, h, enough, completes.perm apart same.symm⟩
    | unknown means unknown =>
      rw [readRecord_object_document, readRecord_object_document]
      simp only [completes_unknown_iff means (find?_eq_none_of_fills fills unknown)]
    | default means absent same =>
      constructor
      · intro read
        obtain ⟨inner, h, enough, completes⟩ := readRecord_object_document.mp read
        have either := keeps.completes_iff same means absent read h enough
        exact readRecord_object_document.mpr ⟨inner, h, enough, either.mpr completes⟩
      · intro read
        obtain ⟨inner, h, enough, completes⟩ := readRecord_object_document.mp read
        have either := keeps.completes_iff same means absent read h enough
        exact readRecord_object_document.mpr ⟨inner, h, enough, either.mp completes⟩
    | member means known change =>
      obtain ⟨slot, found, follows⟩ := exists_slot fills kind.fields_nodup known
      rw [readRecord_object_document, readRecord_object_document]
      constructor
      · rintro ⟨inner, h, enough, completes⟩
        have same := (follows inner h).same change
        exact ⟨inner, h, enough, completes.value means found fun _ => (same _).mp⟩
      · rintro ⟨inner, h, enough, completes⟩
        have same := (follows inner h).same change
        exact ⟨inner, h, enough, completes.value means found fun _ => (same _).mpr⟩
    | element known change =>
      rw [Tree.document, Tree.document, readRecord, readRecord, enter_eq_ok_iff, enter_eq_ok_iff]
      refine exists_congr fun inner => exists_congr fun h => and_congr_right fun _ => ?_
      refine readElements_congr fun slot found => ?_
      exact ((forall₂_getElem? fills found known).2 inner h).same change

end Records

/-! ### Choices -/

/-- The variant reads the contents, whatever their arrangement. -/
def Holds (variant : String × Content budget α) (entry : String × Kind) : Prop :=
  variant.1 = entry.1 ∧ ∀ inner h, Follows entry.2 (variant.2.read inner h)

theorem settled_of_holds {variants : List (String × Content budget α)}
    {entries : List (String × Kind)} (holds : List.Forall₂ Holds variants entries) :
    ∀ variant ∈ variants, ∀ inner h, Settled (variant.2.read inner h) := by
  induction holds with
  | nil => exact nofun
  | cons first _ ih => exact List.forall_mem_cons.mpr ⟨fun inner h => (first.2 inner h).settled, ih⟩

theorem exists_content {variants : List (String × Content budget α)}
    {entries : List (String × Kind)} {name : String} {inside : Kind}
    (holds : List.Forall₂ Holds variants entries) (distinct : (entries.map (·.1)).Nodup)
    (known : (name, inside) ∈ entries) : ∃ content, variants.lookup name = some content ∧
      ∀ inner h, Follows inside (content.read inner h) := by
  induction holds with
  | nil => cases known
  | @cons variant entry variants entries first others ih =>
    obtain ⟨once, distinct⟩ := List.nodup_cons.mp distinct
    rw [List.lookup_cons, first.1]
    rcases List.mem_cons.mp known with rfl | known
    · exact ⟨variant.2, by simp, first.2⟩
    · obtain ⟨found, sought, follows⟩ := ih distinct known
      have different : (name == entry.1) = false := by
        rw [beq_eq_false_iff_ne]
        rintro rfl
        exact once (List.mem_map.mpr ⟨_, known, rfl⟩)
      exact ⟨found, by simpa [different] using sought, follows⟩

theorem follows_readChoice {kind : ChoiceKind} {variants : List (String × Content budget α)}
    (holds : List.Forall₂ Holds variants kind.variants) :
    Follows (.choice kind) (readChoice budget variants) where
  settled := settled_readChoice (settled_of_holds holds)
  same change answer := by
    cases change with
    | @content _ key name inside value other means known change =>
      obtain ⟨content, found, follows⟩ := exists_content holds kind.variants_nodup known
      have named : (bodyOf key).decode = .ok name := decode_bodyOf_eq_ok_iff.mpr means
      have moved {value other : Tree} (same : ∀ inner h,
          content.read inner h 0 value.document = .ok answer →
          content.read inner h 0 other.document = .ok answer)
          (read : readChoice budget variants 0 (Tree.object [(key, value)]).document =
            .ok answer) :
          readChoice budget variants 0 (Tree.object [(key, other)]).document = .ok answer := by
        obtain ⟨inner, h, enough, member, _, _, one, -, named', found', read⟩ :=
          readChoice_object_eq_ok_iff.mp read
        obtain rfl : memberDocument (key, value) = member := (List.cons.inj one).1
        obtain rfl := Except.ok.inj (named.symm.trans named')
        obtain rfl := Option.some.inj (found.symm.trans found')
        exact readChoice_object_eq_ok_iff.mpr ⟨inner, h, enough, memberDocument (key, other), name,
          content, rfl, rfl, named, found, same inner h read⟩
      exact ⟨moved fun inner h => ((follows inner h).same change answer).mp,
        moved fun inner h => ((follows inner h).same change answer).mpr⟩

end Document

end TreeSchema.Json
