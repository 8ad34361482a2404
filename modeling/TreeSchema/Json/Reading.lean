import TreeSchema.Json.Document

/-!
Reading documents by what is expected: texts, lists, records and choices. Records may be written as
objects or as lists of their fields; choices as the name of a variant or as an object with the
variant's name and content.

`budget` is the number of brackets that may still be opened. Readers of inner values are given for
every smaller budget, so a recursive reader descends with it.
-/

namespace TreeSchema.Json

namespace ListEnd

/-- The fault of a list that is read to its end. -/
def fault? : ListEnd → Option Fault
  | closed _ => none
  | trailingComma start => some ⟨.trailingComma, start + 1⟩
  | noSeparator start => some ⟨.expectedListEnd, start + 1⟩
  | unclosed stop => some ⟨.unclosedList, stop⟩

/-- The place after a closed list, or that of what stands there instead. -/
def stop : ListEnd → Nat
  | closed stop | unclosed stop => stop
  | trailingComma start | noSeparator start => start

/-- The fault of a list of fields after the last field. -/
def surplusFault? : ListEnd → Option Fault
  | noSeparator start => some ⟨.trailingCharacters, start + 1⟩
  | ending => ending.fault?

end ListEnd

namespace ObjectEnd

/-- The fault of an object that is read to its end. -/
def fault? : ObjectEnd → Option Fault
  | closed _ => none
  | trailingComma start => some ⟨.trailingComma, start + 1⟩
  | noKey start => some ⟨.keyNotString, start + 1⟩
  | noSeparator start => some ⟨.expectedObjectEnd, start + 1⟩
  | unclosed stop => some ⟨.unclosedObject, stop⟩
  | unclosedAfterComma stop => some ⟨.missingValue, stop⟩

/-- The place after a closed object, or that of what stands there instead. -/
def stop : ObjectEnd → Nat
  | closed stop | unclosed stop | unclosedAfterComma stop => stop
  | trailingComma start | noKey start | noSeparator start => start

end ObjectEnd

def Flaw.fault : Flaw → Fault
  | missing stop => ⟨.missingValue, stop⟩
  | stray start => ⟨.expectedValue, start + 1⟩
  | broken faults => faults.reading
  | noColon fault => fault

/-- The fault of a document where something else was expected. -/
def Document.mismatch (expected : String) : Document → Fault
  | scalar (.word word) _ stop => ⟨.invalidType word.found expected, stop⟩
  | scalar (.numeral numeral) _ stop =>
    match numeral.found stop with
    | .ok found => ⟨.invalidType found expected, stop⟩
    | .error fault => fault
  | scalar (.string body) _ stop =>
    match body.decode with
    | .ok value => ⟨.invalidType (.string value) expected, stop⟩
    | .error fault => fault
  | list start .. => ⟨.invalidType .sequence expected, start⟩
  | object start .. => ⟨.invalidType .map expected, start⟩
  | flawed flaw _ => flaw.fault

/-- Reads a value for a smaller budget; the `Nat` after the proof is the place of a fault of the
value as a whole. -/
abbrev Inner (budget : Nat) (α : Type) :=
  (inner : Nat) → inner < budget → Nat → Document → Except Fault α

/-- Fails with the fault, if there is one. -/
def refuse (fault? : Option Fault) : Except Fault Unit :=
  match fault? with
  | some fault => .error fault
  | none => .ok ()

/-- The budget inside a bracket that opens at `start`. -/
def enter (budget start : Nat) : Except Fault { inner : Nat // inner < budget } :=
  match budget with
  | 0 => .error ⟨.tooDeep, start + 1⟩
  | inner + 1 => .ok ⟨inner, Nat.lt_succ_self inner⟩

namespace Document

def readText : Document → Except Fault String
  | scalar (.string body) _ _ => body.decode
  | document => .error (document.mismatch "a string")

/-- Reads a text or nothing. -/
def readText? : Document → Except Fault (Option String)
  | scalar (.word .null) _ _ => .ok none
  | document => document.readText.map some

def readList {α : Type} (budget : Nat) (item : Inner budget α) : Document → Except Fault (List α)
  | list start items ending => do
    let ⟨inner, h⟩ ← enter budget start
    let values ← items.mapM fun i => item inner h i.follow i.value
    refuse ending.fault?
    return values
  | document => .error (document.mismatch "a sequence")

/-! ### Records -/

/-- A field of a record: what reading its value changes in a record that is blank at first. -/
structure Slot (budget : Nat) (ρ : Type) where
  name : String
  required : Bool
  read : Inner budget (ρ → ρ)

variable {budget : Nat} {ρ : Type}

/-- Reads the members of an object. `seen` are the fields that have been met. -/
def readMembers (slots : List (Slot budget ρ)) (inner : Nat) (h : inner < budget)
    (seen : List String) (record : ρ) :
    List (Member Document) → Except Fault (List String × ρ)
  | [] => .ok (seen, record)
  | member :: rest => do
    let key ← member.key.decode
    match slots.find? (·.name = key) with
    | none =>
      refuse member.value.skipFault?
      readMembers slots inner h seen record rest
    | some slot =>
      if key ∈ seen then .error ⟨.duplicateField key, member.keyFollow⟩
      else
        let change ← slot.read inner h member.follow member.value
        readMembers slots inner h (key :: seen) (change record) rest

/-- Reads the elements of a list as fields, the first of which is field number `n`. -/
def readElements (expected : String) (inner : Nat) (h : inner < budget) (ending : ListEnd) :
    Nat → ρ → List (Slot budget ρ) → List (Item Document) → Except Fault ρ
  | _, record, [], [] => do
    refuse ending.surplusFault?
    return record
  | _, _, [], item :: _ => .error ⟨.trailingCharacters, surplusStop item⟩
  | n, record, slot :: slots, [] => do
    refuse ending.fault?
    if slot.required then .error ⟨.invalidLength n expected, ending.stop⟩
    else readElements expected inner h ending (n + 1) record slots []
  | n, record, slot :: slots, item :: items => do
    let change ← slot.read inner h item.follow item.value
    readElements expected inner h ending (n + 1) (change record) slots items
where
  surplusStop (item : Item Document) : Nat :=
    match item.value with
    | .flawed (.missing stop) _ => stop
    | value => value.start + 1

/-- Reads a record. -/
def readRecord (budget : Nat) (expected : String) (blank : ρ) (slots : List (Slot budget ρ)) :
    Document → Except Fault ρ
  | object start members ending => do
    let ⟨inner, h⟩ ← enter budget start
    let (seen, record) ← readMembers slots inner h [] blank members
    refuse ending.fault?
    match slots.find? (fun slot => slot.required && slot.name ∉ seen) with
    | some slot => .error ⟨.missingField slot.name, ending.stop⟩
    | none => .ok record
  | list start items ending => do
    let ⟨inner, h⟩ ← enter budget start
    readElements s!"{expected} with {slots.length} elements" inner h ending 0 blank slots items
  | document => .error (document.mismatch expected)

/-! ### Choices -/

/-- What stands beside the name of a variant. -/
inductive Content (budget : Nat) (α : Type) where
  | empty (result : α)
  | single (read : Inner budget α)
  | fields (read : Inner budget α)

variable {α : Type}

/-- The variant that a name stands for without content. -/
def Content.alone (follow : Nat) : Content budget α → Except Fault α
  | .empty result => .ok result
  | .single _ => .error ⟨.invalidType .unitVariant "newtype variant", follow⟩
  | .fields _ => .error ⟨.invalidType .unitVariant "struct variant", follow⟩

/-- The variant with the content that a document holds. -/
def Content.read (content : Content budget α) (inner : Nat) (h : inner < budget) (follow : Nat)
    (document : Document) : Except Fault α :=
  match content with
  | .empty result =>
    match document with
    | scalar (.word .null) _ _ => .ok result
    | document => .error (document.mismatch "unit")
  | .single read | .fields read => read inner h follow document

/-- Looks up a variant whose name ends at `stop`. -/
def findVariant (variants : List (String × Content budget α)) (name : String) (stop : Nat) :
    Except Fault (Content budget α) :=
  match variants.lookup name with
  | some content => .ok content
  | none => .error ⟨.unknownVariant name (variants.map (·.1)), stop⟩

/-- What must follow the content of a variant is the end of its object. -/
def variantEnd (follow : Nat) : List (Member Document) → ObjectEnd → Option Fault
  | [], .closed _ => none
  | [], .unclosed stop => some ⟨.unclosedObject, stop⟩
  | _, _ => some ⟨.expectedValue, follow⟩

/-- Reads a choice. -/
def readChoice (budget : Nat) (variants : List (String × Content budget α)) (follow : Nat) :
    Document → Except Fault α
  | scalar (.string body) _ stop => do
    let content ← findVariant variants (← body.decode) stop
    content.alone follow
  | object start members ending => do
    let ⟨inner, h⟩ ← enter budget start
    match members with
    | [] =>
      refuse ending.fault?
      .error ⟨.expectedValue, ending.stop⟩
    | member :: rest => do
      let content ← findVariant variants (← member.key.decode) member.keyStop
      let value ← content.read inner h member.follow member.value
      refuse (variantEnd member.follow rest ending)
      return value
  | flawed (.missing stop) _ => .error ⟨.missingValue, stop⟩
  | flawed (.noColon fault) _ => .error fault
  | document => .error ⟨.expectedValue, document.start + 1⟩

end Document

end TreeSchema.Json
