import TreeSchema.Json.Token

/-!
The tree of a JSON text, also of one that breaks off. A document holds what can be read up to the
first fault and the fault in its place, so a reader that goes through the document in order meets
the faults of the text and its own in the order of the text.
-/

namespace TreeSchema.Json

inductive Scalar where
  | word (word : Word)
  | numeral (numeral : Numeral)
  | string (body : Body)
  deriving DecidableEq, Repr

/-- How a list ends, with the place after it or of what stands there instead. -/
inductive ListEnd where
  | closed (stop : Nat)
  | trailingComma (start : Nat)
  | noSeparator (start : Nat)
  | unclosed (stop : Nat)
  deriving DecidableEq, Repr

/-- How an object ends. -/
inductive ObjectEnd where
  | closed (stop : Nat)
  | trailingComma (start : Nat)
  | noKey (start : Nat)
  | noSeparator (start : Nat)
  | unclosed (stop : Nat)
  | unclosedAfterComma (stop : Nat)
  deriving DecidableEq, Repr

/-- What stands in the place of a value. -/
inductive Flaw where
  | missing (stop : Nat)
  | stray (start : Nat)
  | broken (faults : TwoFaults)
  /-- A member without a colon. -/
  | noColon (fault : Fault)
  deriving DecidableEq, Repr

/-- A value of a list. `follow` is the place that closing the list after this value would reach. -/
structure Item (α : Type) where
  value : α
  follow : Nat
  deriving Repr

/-- A member of an object. The two places are those that closing the object after the key and after
the value would reach. -/
structure Member (α : Type) where
  key : Body
  keyStop : Nat
  keyFollow : Nat
  value : α
  follow : Nat
  deriving Repr

inductive Document where
  | scalar (scalar : Scalar) (start stop : Nat)
  | list (start : Nat) (items : List (Item Document)) (ending : ListEnd)
  | object (start : Nat) (members : List (Member Document)) (ending : ObjectEnd)
  | flawed (flaw : Flaw) (start : Nat)
  deriving Repr

namespace Document

def start : Document → Nat
  | scalar _ start _ | list start .. | object start .. | flawed _ start => start

/-! ### Reading the tokens -/

/-- The place reached by closing a list before the given tokens. A comma is taken for a start. -/
def closeList (size : Nat) : List Token → Nat
  | [] => size
  | token :: rest =>
    if token.lexeme = .closeList then token.stop
    else if token.lexeme = .comma then (rest.head?).elim size (·.start)
    else token.start

/-- The place reached by closing an object before the given tokens. -/
def closeObject (size : Nat) : List Token → Nat
  | [] => size
  | token :: _ => if token.lexeme = .closeObject then token.stop else token.start

/-- An object that waits for the value of a key, with its members so far last first. -/
structure Waiting where
  start : Nat
  members : List (Member Document)
  key : Body
  keyStop : Nat
  keyFollow : Nat

/-- What is open around the place that has been reached. -/
inductive Context where
  | top
  | list (start : Nat) (items : List (Item Document)) (outer : Context)
  | object (waiting : Waiting) (outer : Context)

/-- The document around a value after which nothing can be read. -/
def Context.abandon (value : Document) : Context → Document
  | top => value
  | list start items outer =>
    outer.abandon (.list start (items.reverse ++ [⟨value, 0⟩]) (.unclosed 0))
  | object w outer =>
    outer.abandon (.object w.start
      (w.members.reverse ++ [⟨w.key, w.keyStop, w.keyFollow, value, 0⟩]) (.unclosed 0))

/-- What may come next. -/
inductive State where
  /-- A value, or the end of a list that has none. -/
  | value (context : Context) (first : Bool)
  /-- A key or the end of an object, whose members so far are given last first. -/
  | key (start : Nat) (members : List (Member Document)) (outer : Context)
  | colon (waiting : Waiting) (outer : Context)
  | afterItem (start : Nat) (items : List (Item Document)) (outer : Context)
  | afterMember (start : Nat) (members : List (Member Document)) (outer : Context)
  | done (root : Document)

/-- The state after a value that is followed by the given tokens. -/
def Context.deliver (size : Nat) (value : Document) (rest : List Token) : Context → State
  | top => .done value
  | list start items outer => .afterItem start (⟨value, closeList size rest⟩ :: items) outer
  | object w outer =>
    .afterMember w.start
      (⟨w.key, w.keyStop, w.keyFollow, value, closeObject size rest⟩ :: w.members) outer

/-- The document when the tokens end. -/
def State.atEnd (size : Nat) : State → Document × Option Nat
  | .value (.list start [] outer) true =>
    (outer.abandon (.list start [] (.unclosed size)), none)
  | .value context _ => (context.abandon (.flawed (.missing size) size), none)
  | .key start [] outer => (outer.abandon (.object start [] (.unclosed size)), none)
  | .key start members outer =>
    (outer.abandon (.object start members.reverse (.unclosedAfterComma size)), none)
  | .colon w outer =>
    ((Context.object w outer).abandon (.flawed (.noColon ⟨.unclosedObject, size⟩) size), none)
  | .afterItem start items outer =>
    (outer.abandon (.list start items.reverse (.unclosed size)), none)
  | .afterMember start members outer =>
    (outer.abandon (.object start members.reverse (.unclosed size)), none)
  | .done root => (root, none)

/-- The next state, or the document if the token does not fit. -/
def State.step (size : Nat) (token : Token) (rest : List Token) :
    State → Except (Document × Option Nat) State
  | .value context first =>
    let scalar (s : Scalar) : Except (Document × Option Nat) State :=
      .ok (context.deliver size (.scalar s token.start token.stop) rest)
    let flawed (flaw : Flaw) : Except (Document × Option Nat) State :=
      .error (context.abandon (.flawed flaw token.start), none)
    match token.lexeme with
    | .openList => .ok (.value (.list token.start [] context) true)
    | .openObject => .ok (.key token.start [] context)
    | .word word => scalar (.word word)
    | .numeral numeral => scalar (.numeral numeral)
    | .string body => scalar (.string body)
    | .brokenWord faults | .brokenNumeral faults => flawed (.broken faults)
    | .closeList =>
      match context, first with
      | .list start _ outer, true =>
        .ok (outer.deliver size (.list start [] (.closed token.stop)) rest)
      | .list start items outer, false =>
        .error (outer.abandon (.list start items.reverse (.trailingComma token.start)), none)
      | _, _ => flawed (.stray token.start)
    | .closeObject | .comma | .colon | .stray => flawed (.stray token.start)
  | .key start members outer =>
    match token.lexeme with
    | .string body =>
      .ok (.colon ⟨start, members, body, token.stop, closeObject size rest⟩ outer)
    | .closeObject =>
      if members.isEmpty then
        .ok (outer.deliver size (.object start [] (.closed token.stop)) rest)
      else .error (outer.abandon (.object start members.reverse (.trailingComma token.start)), none)
    | _ => .error (outer.abandon (.object start members.reverse (.noKey token.start)), none)
  | .colon w outer =>
    if token.lexeme = .colon then .ok (.value (.object w outer) false)
    else .error ((Context.object w outer).abandon
      (.flawed (.noColon ⟨.expectedColon, token.start + 1⟩) token.start), none)
  | .afterItem start items outer =>
    match token.lexeme with
    | .comma => .ok (.value (.list start items outer) false)
    | .closeList => .ok (outer.deliver size (.list start items.reverse (.closed token.stop)) rest)
    | _ => .error (outer.abandon (.list start items.reverse (.noSeparator token.start)), none)
  | .afterMember start members outer =>
    match token.lexeme with
    | .comma => .ok (.key start members outer)
    | .closeObject =>
      .ok (outer.deliver size (.object start members.reverse (.closed token.stop)) rest)
    | _ => .error (outer.abandon (.object start members.reverse (.noSeparator token.start)), none)
  | .done root => .error (root, some token.start)

/-- Goes through the tokens of a text of the given size. -/
def State.run (size : Nat) : State → List Token → Document × Option Nat
  | state, [] => state.atEnd size
  | state, token :: rest =>
    match state.step size token rest with
    | .ok state => state.run size rest
    | .error result => result

/-- The document of a text, and the place of what follows it, if anything does. -/
def ofText (text : List Char) : Document × Option Nat :=
  (State.value .top false).run (Text.byteSize text) (tokens text)

/-! ### Skipping -/

mutual

/-- The first fault met when the document is skipped. -/
def skipFault? : Document → Option Fault
  | scalar (.string body) _ _ => body.ending.skipFault?
  | scalar _ _ _ => none
  | list _ items ending =>
    (itemFault? items).or <|
      match ending with
      | .closed _ => none
      | .trailingComma start => some ⟨.expectedValue, start + 1⟩
      | .noSeparator start => some ⟨.expectedListEnd, start + 1⟩
      | .unclosed stop => some ⟨.unclosedList, stop⟩
  | object _ members ending =>
    (memberFault? members).or <|
      match ending with
      | .closed _ => none
      | .trailingComma start | .noKey start => some ⟨.keyNotString, start + 1⟩
      | .noSeparator start => some ⟨.expectedObjectEnd, start + 1⟩
      | .unclosed stop | .unclosedAfterComma stop => some ⟨.unclosedObject, stop⟩
  | flawed flaw _ =>
    match flaw with
    | .missing stop => some ⟨.missingValue, stop⟩
    | .stray start => some ⟨.expectedValue, start + 1⟩
    | .broken faults => some faults.skipping
    | .noColon fault => some fault

def itemFault? : List (Item Document) → Option Fault
  | [] => none
  | item :: rest => (skipFault? item.value).or (itemFault? rest)

def memberFault? : List (Member Document) → Option Fault
  | [] => none
  | member :: rest =>
    (member.key.ending.skipFault?.or (skipFault? member.value)).or (memberFault? rest)

end

end Document

end TreeSchema.Json
