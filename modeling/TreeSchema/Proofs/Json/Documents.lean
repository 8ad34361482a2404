import Mathlib.Data.List.Forall2
import TreeSchema.Json.Document
import TreeSchema.Proofs.Json.Strings

/-!
Values that were printed. The tree of their text has no flaw and shows the value.
-/

namespace TreeSchema.Json

open Document

/-- The document is the tree of a text of the value. -/
inductive Document.Shows : Document → Value → Prop
  | string {body : Body} {text : String} {start stop : Nat} (closes : body.Closes text) :
    Shows (.scalar (.string body) start stop) (.string text)
  | list {start stop : Nat} {items : List (Item Document)} {values : List Value}
    (each : List.Forall₂ (fun item value => Shows item.value value) items values) :
    Shows (.list start items (.closed stop)) (.list values)
  | object {start stop : Nat} {members : List (Member Document)}
    {values : List (String × Value)}
    (keys : List.Forall₂ (fun member value => member.key.Closes value.1) members values)
    (each : List.Forall₂ (fun member value => Shows member.value value.2) members values) :
    Shows (.object start members (.closed stop)) (.object values)

def Member.Shows (member : Member Document) (value : String × Value) : Prop :=
  member.key.Closes value.1 ∧ member.value.Shows value.2

namespace Document

variable {size start : Nat} {state : State} {text middle rest : List Char} {c : Char}
  {lexeme : Lexeme} {outcome later : List Token → State → Prop} {context outer : Context}

/-- Reading the text from the state up to the rest has an outcome, which may depend on the tokens of
the rest, and goes on from there. -/
def Leads (size : Nat) (state : State) (text rest : List Char)
    (outcome : List Token → State → Prop) : Prop :=
  ∀ fuel start, text.length ≤ fuel → ∃ left stop next, rest.length ≤ left ∧
    outcome (scan left stop rest) next ∧
    state.run size (scan fuel start text) = next.run size (scan left stop rest)

/-- One token is scanned from the text. -/
def Scans (text rest : List Char) (accepts : Lexeme → Prop) : Prop :=
  ∀ fuel start, text.length ≤ fuel → ∃ left stop lexeme, rest.length ≤ left ∧ accepts lexeme ∧
    scan fuel start text = ⟨lexeme, start, stop⟩ :: scan left stop rest

/-! ### Steps -/

theorem Leads.trans (first : Leads size state text middle outcome)
    (next : ∀ tokens state, outcome tokens state → Leads size state middle rest later) :
    Leads size state text rest later := by
  intro fuel start enough
  obtain ⟨left, stop, between, enough, reached, same⟩ := first fuel start enough
  obtain ⟨left, stop, final, enough, reached, sameAgain⟩ := next _ _ reached left stop enough
  exact ⟨left, stop, final, enough, reached, same.trans sameAgain⟩

theorem Leads.mono (leads : Leads size state text rest outcome)
    (weaker : ∀ tokens state, outcome tokens state → later tokens state) :
    Leads size state text rest later := by
  intro fuel start enough
  obtain ⟨left, stop, next, enough, reached, same⟩ := leads fuel start enough
  exact ⟨left, stop, next, enough, weaker _ _ reached, same⟩

theorem Leads.of_step {accepts : Lexeme → Prop} (scans : Scans text rest accepts)
    (step : ∀ token tokens, accepts token.lexeme →
      ∃ next, state.step size token tokens = .ok next ∧ outcome tokens next) :
    Leads size state text rest outcome := by
  intro fuel start enough
  obtain ⟨left, stop, lexeme, enough, accepted, scanned⟩ := scans fuel start enough
  obtain ⟨next, stepped, reached⟩ := step ⟨lexeme, start, stop⟩ (scan left stop rest) accepted
  refine ⟨left, stop, next, enough, reached, ?_⟩
  rw [scanned, State.run, stepped]

theorem scans_char (noSpace : isSpace c = false) (sound : lexeme.isSound = true)
    (token : ∀ start rest, scanToken start c rest = (lexeme, start + 1, rest)) :
    Scans (c :: rest) rest (· = lexeme) := by
  intro fuel start enough
  cases fuel with
  | zero => exact absurd enough (Nat.not_succ_le_zero _)
  | succ left =>
    refine ⟨left, start + 1, lexeme, Nat.le_of_succ_le_succ enough, rfl, ?_⟩
    rw [scan, noSpace, token]
    simp [sound]

theorem scans_string (text : String) :
    Scans (stringText text ++ rest) rest
      fun lexeme => ∃ body, lexeme = .string body ∧ body.Closes text := by
  have chars : stringText text ++ rest =
      '"' :: (text.toList.flatMap escapeChar ++ '"' :: rest) := by
    simp [stringText]
  intro fuel start enough
  rw [chars] at enough ⊢
  cases fuel with
  | zero => exact absurd enough (Nat.not_succ_le_zero _)
  | succ left =>
    obtain ⟨body, scanned, closes⟩ := scanBody_stringText text (start + 1) rest
    obtain ⟨decoded, stop, closed⟩ := closes
    have token : scanToken start '"' (text.toList.flatMap escapeChar ++ '"' :: rest) =
        (.string body, stop, rest) := by
      have opened : scanToken start '"' (text.toList.flatMap escapeChar ++ '"' :: rest) =
          scanString (start + 1) (text.toList.flatMap escapeChar ++ '"' :: rest) := rfl
      rw [opened, scanString, scanned]
      simp only [closed]
    refine ⟨left, stop, .string body, ?_, ⟨body, rfl, decoded, stop, closed⟩, ?_⟩
    · simp only [List.length_cons, List.length_append] at enough
      omega
    · have sound : (Lexeme.string body).isSound = true := by
        rw [Lexeme.isSound, closed]
        rfl
      have quote : isSpace '"' = false := rfl
      rw [scan, quote, token]
      simp [sound]

/-! ### Values -/

theorem leads_openList (context : Context) (first : Bool) (rest : List Char) :
    Leads size (.value context first) ('[' :: rest) rest fun _ next =>
      ∃ start, next = .value (.list start [] context) true := by
  refine .of_step (scans_char rfl rfl fun _ _ => rfl) ?_
  rintro ⟨_, start, stop⟩ tokens rfl
  exact ⟨_, rfl, start, rfl⟩

theorem leads_openObject (context : Context) (first : Bool) (rest : List Char) :
    Leads size (.value context first) ('{' :: rest) rest fun _ next =>
      ∃ start, next = .key start [] context := by
  refine .of_step (scans_char rfl rfl fun _ _ => rfl) ?_
  rintro ⟨_, start, stop⟩ tokens rfl
  exact ⟨_, rfl, start, rfl⟩

variable (size)

mutual

/-- The text of a value delivers a document that shows it, whatever is around and after it. -/
theorem leads_text : (value : Value) → (context : Context) → (first : Bool) →
    (rest : List Char) → Leads size (.value context first) (value.text ++ rest) rest
      fun tokens next =>
        ∃ document : Document, document.Shows value ∧ next = context.deliver size document tokens
  | .string text, context, first, rest => by
    refine .of_step (scans_string text) ?_
    rintro ⟨_, start, stop⟩ tokens ⟨body, rfl, closes⟩
    exact ⟨_, rfl, _, .string closes, rfl⟩
  | .list [], context, first, rest => by
    refine (leads_openList context first (']' :: rest)).trans ?_
    rintro - _ ⟨start, rfl⟩
    refine .of_step (scans_char rfl rfl fun _ _ => rfl) ?_
    rintro ⟨_, _, stop⟩ tokens rfl
    exact ⟨_, rfl, _, .list .nil, rfl⟩
  | .list (item :: values), context, first, rest => by
    have chars : (Value.list (item :: values)).text ++ rest =
        '[' :: (item.text ++ (Value.itemsText values ++ rest)) := by
      simp [Value.text]
    rw [chars]
    refine (leads_openList context first _).trans ?_
    rintro - _ ⟨start, rfl⟩
    refine (leads_text item _ true _).trans ?_
    rintro tokens _ ⟨document, shows, rfl⟩
    refine (leads_itemsText values start [⟨document, closeList size tokens⟩] context rest).mono ?_
    rintro tokens _ ⟨items, stop, each, rfl⟩
    exact ⟨_, .list (.cons shows each), rfl⟩
  | .object [], context, first, rest => by
    refine (leads_openObject context first ('}' :: rest)).trans ?_
    rintro - _ ⟨start, rfl⟩
    refine .of_step (scans_char rfl rfl fun _ _ => rfl) ?_
    rintro ⟨_, _, stop⟩ tokens rfl
    exact ⟨_, rfl, _, .object .nil .nil, rfl⟩
  | .object (member :: values), context, first, rest => by
    have chars : (Value.object (member :: values)).text ++ rest =
        '{' :: (Value.memberText member ++ (Value.membersText values ++ rest)) := by
      simp [Value.text]
    rw [chars]
    refine (leads_openObject context first _).trans ?_
    rintro - _ ⟨start, rfl⟩
    refine (leads_memberText member start [] context _).trans ?_
    rintro - _ ⟨found, ⟨key, shows⟩, rfl⟩
    refine (leads_membersText values start [found] context rest).mono ?_
    rintro tokens _ ⟨members, stop, keys, each, rfl⟩
    exact ⟨_, .object (.cons key keys) (.cons shows each), rfl⟩

theorem leads_itemsText : (values : List Value) → (start : Nat) → (items : List (Item Document)) →
    (outer : Context) → (rest : List Char) →
    Leads size (.afterItem start items outer) (Value.itemsText values ++ rest) rest
      fun tokens next => ∃ others stop,
        List.Forall₂ (fun (item : Item Document) value => item.value.Shows value) others values ∧
        next = outer.deliver size (.list start (items.reverse ++ others) (.closed stop)) tokens
  | [], start, items, outer, rest => by
    refine .of_step (scans_char rfl rfl fun _ _ => rfl) ?_
    rintro ⟨_, _, stop⟩ tokens rfl
    exact ⟨_, rfl, [], stop, .nil, by rw [List.append_nil]⟩
  | value :: values, start, items, outer, rest => by
    have chars : Value.itemsText (value :: values) ++ rest =
        ',' :: (value.text ++ (Value.itemsText values ++ rest)) := by
      simp [Value.itemsText]
    have comma (rest : List Char) : Leads size (.afterItem start items outer) (',' :: rest) rest
        fun _ next => next = .value (.list start items outer) false := by
      refine .of_step (scans_char rfl rfl fun _ _ => rfl) ?_
      rintro ⟨_, _, stop⟩ tokens rfl
      exact ⟨_, rfl, rfl⟩
    rw [chars]
    refine (comma _).trans ?_
    rintro - _ rfl
    refine (leads_text value _ false _).trans ?_
    rintro after _ ⟨document, shows, rfl⟩
    refine (leads_itemsText values start (⟨document, closeList size after⟩ :: items) outer
      rest).mono ?_
    rintro tokens _ ⟨others, stop, each, rfl⟩
    refine ⟨⟨document, closeList size after⟩ :: others, stop, .cons shows each, ?_⟩
    rw [List.reverse_cons, List.append_assoc, List.singleton_append]

theorem leads_memberText : (member : String × Value) → (start : Nat) →
    (members : List (Member Document)) → (outer : Context) → (rest : List Char) →
    Leads size (.key start members outer) (Value.memberText member ++ rest) rest
      fun _ next => ∃ found : Member Document, found.Shows member ∧
        next = .afterMember start (found :: members) outer
  | (key, value), start, members, outer, rest => by
    have chars : Value.memberText (key, value) ++ rest =
        stringText key ++ ':' :: (value.text ++ rest) := by
      simp [Value.memberText]
    have name (rest : List Char) : Leads size (.key start members outer) (stringText key ++ rest)
        rest fun _ next => ∃ body stop follow, body.Closes key ∧
          next = .colon ⟨start, members, body, stop, follow⟩ outer := by
      refine .of_step (scans_string key) ?_
      rintro ⟨_, _, stop⟩ tokens ⟨body, rfl, closes⟩
      exact ⟨_, rfl, body, stop, _, closes, rfl⟩
    have colon (waiting : Waiting) (rest : List Char) : Leads size (.colon waiting outer)
        (':' :: rest) rest fun _ next => next = .value (.object waiting outer) false := by
      refine .of_step (scans_char rfl rfl fun _ _ => rfl) ?_
      rintro ⟨_, _, stop⟩ tokens rfl
      exact ⟨_, rfl, rfl⟩
    rw [chars]
    refine (name _).trans ?_
    rintro - _ ⟨body, stop, follow, closes, rfl⟩
    refine (colon _ _).trans ?_
    rintro - _ rfl
    refine (leads_text value _ false rest).mono ?_
    rintro tokens _ ⟨document, shows, rfl⟩
    exact ⟨⟨body, stop, follow, document, closeObject size tokens⟩, ⟨closes, shows⟩, rfl⟩

theorem leads_membersText : (values : List (String × Value)) → (start : Nat) →
    (members : List (Member Document)) → (outer : Context) → (rest : List Char) →
    Leads size (.afterMember start members outer) (Value.membersText values ++ rest) rest
      fun tokens next => ∃ others stop,
        List.Forall₂ (fun (member : Member Document) value => member.key.Closes value.1)
          others values ∧
        List.Forall₂ (fun (member : Member Document) value => member.value.Shows value.2)
          others values ∧
        next = outer.deliver size (.object start (members.reverse ++ others) (.closed stop)) tokens
  | [], start, members, outer, rest => by
    refine .of_step (scans_char rfl rfl fun _ _ => rfl) ?_
    rintro ⟨_, _, stop⟩ tokens rfl
    exact ⟨_, rfl, [], stop, .nil, .nil, by rw [List.append_nil]⟩
  | value :: values, start, members, outer, rest => by
    have chars : Value.membersText (value :: values) ++ rest =
        ',' :: (Value.memberText value ++ (Value.membersText values ++ rest)) := by
      simp [Value.membersText]
    have comma (rest : List Char) : Leads size (.afterMember start members outer) (',' :: rest)
        rest fun _ next => next = .key start members outer := by
      refine .of_step (scans_char rfl rfl fun _ _ => rfl) ?_
      rintro ⟨_, _, stop⟩ tokens rfl
      exact ⟨_, rfl, rfl⟩
    rw [chars]
    refine (comma _).trans ?_
    rintro - _ rfl
    refine (leads_memberText value start members outer _).trans ?_
    rintro - _ ⟨found, ⟨key, shows⟩, rfl⟩
    refine (leads_membersText values start (found :: members) outer rest).mono ?_
    rintro tokens _ ⟨others, stop, keys, each, rfl⟩
    refine ⟨found :: others, stop, .cons key keys, .cons shows each, ?_⟩
    rw [List.reverse_cons, List.append_assoc, List.singleton_append]

end

/-- The text of a value is a document that shows it, with nothing after it. -/
theorem exists_ofText_text (value : Value) :
    ∃ document : Document, document.Shows value ∧ ofText value.text = (document, none) := by
  have leads := leads_text (Text.byteSize value.text) value .top false []
  rw [List.append_nil] at leads
  obtain ⟨left, stop, _, -, ⟨document, shows, rfl⟩, same⟩ := leads _ 0 (Nat.le_refl _)
  refine ⟨document, shows, same.trans ?_⟩
  have nothing : scan left stop [] = [] := by
    cases left <;> rfl
  rw [nothing]
  rfl

end Document

end TreeSchema.Json
