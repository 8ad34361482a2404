import TreeSchema.Proofs.Json.Parsing

/-!
A document without a flaw and with nothing after it is made of all tokens of its text, so the text
is laid out from its tree.
-/

namespace TreeSchema.Json

theorem intercalate_concat {α : Type} (separator : α) (front : List (List α)) (last : List α) :
    [separator].intercalate (front ++ [last]) = front.flatMap (· ++ [separator]) ++ last := by
  induction front with
  | nil => simp
  | cons first front ih =>
    rw [List.cons_append, List.intercalate_cons_of_ne_nil (by simp), ih]
    simp

namespace Document

variable {size start stop : Nat} {token : Token} {tokens rest : List Token}
  {items : List (Item Document)} {members : List (Member Document)} {outer context : Context}
  {state next : State} {document : Document}

/-! ### From documents to marks -/

mutual

/-- The lexemes that a document is made of, as far as it was read. -/
def lexemes : Document → List Lexeme
  | scalar (.word w) _ _ => [.word w]
  | scalar (.numeral n) _ _ => [.numeral n]
  | scalar (.string body) _ _ => [.string body]
  | list _ items _ => .openList :: [.comma].intercalate (itemLexemes items) ++ [.closeList]
  | object _ members _ =>
    .openObject :: [.comma].intercalate (memberLexemes members) ++ [.closeObject]
  | flawed _ _ => []

def itemLexemes : List (Item Document) → List (List Lexeme)
  | [] => []
  | item :: rest => item.value.lexemes :: itemLexemes rest

def memberLexemes : List (Member Document) → List (List Lexeme)
  | [] => []
  | member :: rest =>
    (.string member.key :: .colon :: member.value.lexemes) :: memberLexemes rest

end

theorem itemLexemes_append (first second : List (Item Document)) :
    itemLexemes (first ++ second) = itemLexemes first ++ itemLexemes second := by
  induction first with
  | nil => rfl
  | cons item first ih => rw [List.cons_append, itemLexemes, itemLexemes, ih, List.cons_append]

theorem memberLexemes_append (first second : List (Member Document)) :
    memberLexemes (first ++ second) = memberLexemes first ++ memberLexemes second := by
  induction first with
  | nil => rfl
  | cons member first ih =>
    rw [List.cons_append, memberLexemes, memberLexemes, ih, List.cons_append]

theorem itemLexemes_eq_nil (none : itemLexemes items = []) : items = [] := by
  cases items with
  | nil => rfl
  | cons => cases none

theorem memberLexemes_eq_nil (none : memberLexemes members = []) : members = [] := by
  cases members with
  | nil => rfl
  | cons => cases none

/-- The lexemes around a place. -/
def Context.lexemes : Context → List Lexeme
  | .top => []
  | .list _ items outer =>
    outer.lexemes ++ .openList :: (itemLexemes items.reverse).flatMap (· ++ [.comma])
  | .object w outer =>
    outer.lexemes ++ .openObject :: ((memberLexemes w.members.reverse).flatMap (· ++ [.comma]) ++
      [.string w.key, .colon])

/-- The lexemes that were read on the way to a state. -/
def State.lexemes : State → List Lexeme
  | .value context _ => context.lexemes
  | .key _ members outer =>
    outer.lexemes ++ .openObject :: (memberLexemes members.reverse).flatMap (· ++ [.comma])
  | .colon w outer =>
    outer.lexemes ++ .openObject :: ((memberLexemes w.members.reverse).flatMap (· ++ [.comma]) ++
      [.string w.key])
  | .afterItem _ items outer =>
    outer.lexemes ++ .openList :: [.comma].intercalate (itemLexemes items.reverse)
  | .afterMember _ members outer =>
    outer.lexemes ++ .openObject :: [.comma].intercalate (memberLexemes members.reverse)
  | .done root => root.lexemes

theorem lexemes_deliver (context : Context) (document : Document) (rest : List Token) :
    (context.deliver size document rest).lexemes = context.lexemes ++ document.lexemes := by
  cases context with
  | top => rfl
  | list start items outer =>
    simp [Context.deliver, State.lexemes, Context.lexemes, itemLexemes_append, itemLexemes,
      intercalate_concat]
  | object w outer =>
    simp [Context.deliver, State.lexemes, Context.lexemes, memberLexemes_append, memberLexemes,
      intercalate_concat]

/-- What holds in every state that is reached: only a list without items is at its first one, and a
comma follows something. -/
def State.Fine : State → Prop
  | .value context first => first = true → ∃ start outer, context = .list start [] outer
  | .afterItem _ items _ => items ≠ []
  | .afterMember _ members _ => members ≠ []
  | .key .. | .colon .. | .done _ => True

theorem fine_deliver (context : Context) (document : Document) (rest : List Token) :
    (context.deliver size document rest).Fine := by
  cases context with
  | top => trivial
  | list | object => exact List.cons_ne_nil _ _

theorem intercalate_comma {items : List (List Lexeme)} (nonempty : items ≠ []) :
    [Lexeme.comma].intercalate items ++ [.comma] = items.flatMap (· ++ [.comma]) := by
  rw [← List.dropLast_concat_getLast nonempty, intercalate_concat]
  simp

/-- A step reads the lexeme of its token. -/
theorem lexemes_step (fine : state.Fine) (stepped : state.step size token rest = .ok next) :
    next.Fine ∧ next.lexemes = state.lexemes ++ [token.lexeme] := by
  obtain ⟨lexeme, start, stop⟩ := token
  cases state with
  | done root => cases stepped
  | value context first =>
    cases lexeme with
    | openList =>
      cases stepped
      exact ⟨fun _ => ⟨start, context, rfl⟩, rfl⟩
    | openObject =>
      cases stepped
      exact ⟨trivial, rfl⟩
    | word | numeral | string =>
      cases stepped
      exact ⟨fine_deliver _ _ _, lexemes_deliver _ _ _⟩
    | closeList =>
      cases first with
      | false => cases context <;> cases stepped
      | true =>
        obtain ⟨opened, outer, rfl⟩ := fine rfl
        cases stepped
        refine ⟨fine_deliver _ _ _, (lexemes_deliver _ _ _).trans ?_⟩
        simp [State.lexemes, Context.lexemes, Document.lexemes, itemLexemes]
    | closeObject | comma | colon | brokenWord | brokenNumeral | stray => cases stepped
  | key opened members outer =>
    cases lexeme with
    | string body =>
      cases stepped
      refine ⟨trivial, ?_⟩
      simp [State.lexemes]
    | closeObject =>
      cases members with
      | nil =>
        cases stepped
        refine ⟨fine_deliver _ _ _, (lexemes_deliver _ _ _).trans ?_⟩
        simp [State.lexemes, Document.lexemes, memberLexemes]
      | cons => cases stepped
    | _ => cases stepped
  | colon waiting outer =>
    rw [State.step] at stepped
    split at stepped
    next same =>
      obtain rfl : lexeme = .colon := same
      cases stepped
      refine ⟨Bool.noConfusion, ?_⟩
      simp [State.lexemes, Context.lexemes]
    next => cases stepped
  | afterItem opened items outer =>
    cases lexeme with
    | comma =>
      cases stepped
      refine ⟨Bool.noConfusion, ?_⟩
      have some : itemLexemes items.reverse ≠ [] := by
        intro none
        exact fine (List.reverse_eq_nil_iff.mp (itemLexemes_eq_nil none))
      simp [State.lexemes, Context.lexemes, ← intercalate_comma some]
    | closeList =>
      cases stepped
      refine ⟨fine_deliver _ _ _, (lexemes_deliver _ _ _).trans ?_⟩
      simp [State.lexemes, Document.lexemes]
    | _ => cases stepped
  | afterMember opened members outer =>
    cases lexeme with
    | comma =>
      cases stepped
      refine ⟨trivial, ?_⟩
      have some : memberLexemes members.reverse ≠ [] := by
        intro none
        exact fine (List.reverse_eq_nil_iff.mp (memberLexemes_eq_nil none))
      simp [State.lexemes, ← intercalate_comma some]
    | closeObject =>
      cases stepped
      refine ⟨fine_deliver _ _ _, (lexemes_deliver _ _ _).trans ?_⟩
      simp [State.lexemes, Document.lexemes]
    | _ => cases stepped

/-! ### Flaws -/

/-- An abandoned document has a flaw if the value in its place has one. -/
theorem skipFault?_abandon (flawed : document.skipFault? ≠ none) (context : Context) :
    (context.abandon document).skipFault? ≠ none := by
  induction context generalizing document with
  | top => exact flawed
  | list start items outer ih => exact ih (by simp [skipFault?])
  | object w outer ih => exact ih (by simp [skipFault?])

/-- The result is a document with a flaw or with something after it. -/
def Spoilt (result : Document × Option Nat) : Prop :=
  result.1.skipFault? = none → result.2 ≠ none

theorem spoilt_abandon (flawed : document.skipFault? ≠ none) (context : Context) :
    Spoilt (context.abandon document, none) :=
  fun sound => absurd sound (skipFault?_abandon flawed context)

theorem spoilt_atEnd (size : Nat) (state : State) :
    Spoilt (state.atEnd size) ∨ ∃ root, state = .done root := by
  cases state with
  | done root => exact .inr ⟨root, rfl⟩
  | value context first =>
    left
    cases context with
    | top | object => exact spoilt_abandon (by simp [skipFault?]) _
    | list start items outer =>
      cases items <;> cases first <;> exact spoilt_abandon (by simp [skipFault?]) _
  | key start members outer =>
    left
    cases members <;> exact spoilt_abandon (by simp [skipFault?]) _
  | colon | afterItem | afterMember => exact .inl (spoilt_abandon (by simp [skipFault?]) _)

theorem spoilt_of_step {result : Document × Option Nat}
    (failed : state.step size token rest = .error result) : Spoilt result := by
  obtain ⟨lexeme, start, stop⟩ := token
  cases state with
  | done root =>
    cases failed
    exact fun _ => nofun
  | value context first =>
    have flawed (flaw : Flaw) : Spoilt (context.abandon (.flawed flaw start), none) :=
      spoilt_abandon (by cases flaw <;> simp [skipFault?]) context
    cases lexeme with
    | openList | openObject | word | numeral | string => cases failed
    | closeObject | comma | colon | brokenWord | brokenNumeral | stray =>
      cases failed
      exact flawed _
    | closeList =>
      cases context with
      | top | object =>
        cases failed
        exact flawed _
      | list opened items outer =>
        cases first with
        | true => cases failed
        | false =>
          cases failed
          exact spoilt_abandon (by simp [skipFault?]) _
  | key opened members outer =>
    have flawed (ending : ObjectEnd) (open_ : ∀ stop, ending ≠ .closed stop) :
        Spoilt (outer.abandon (.object opened members.reverse ending), none) :=
      spoilt_abandon (by cases ending <;> simp_all [skipFault?]) outer
    cases lexeme with
    | string => cases failed
    | closeObject =>
      cases members with
      | nil => cases failed
      | cons =>
        cases failed
        exact flawed _ nofun
    | _ =>
      cases failed
      exact flawed _ nofun
  | colon waiting outer =>
    rw [State.step] at failed
    split at failed
    next => cases failed
    next =>
      cases failed
      exact spoilt_abandon (by simp [skipFault?]) _
  | afterItem opened items outer =>
    cases lexeme with
    | comma | closeList => cases failed
    | _ =>
      cases failed
      exact spoilt_abandon (by simp [skipFault?]) _
  | afterMember opened members outer =>
    cases lexeme with
    | comma | closeObject => cases failed
    | _ =>
      cases failed
      exact spoilt_abandon (by simp [skipFault?]) _

/-- A document without a flaw and with nothing after it is made of all tokens. -/
theorem lexemes_of_run (fine : state.Fine) (run : state.run size tokens = (document, none))
    (sound : document.skipFault? = none) :
    document.lexemes = state.lexemes ++ tokens.map (·.lexeme) := by
  induction tokens generalizing state with
  | nil =>
    rcases spoilt_atEnd size state with spoilt | ⟨root, rfl⟩
    · rw [State.run] at run
      exact absurd rfl ((run ▸ spoilt) sound)
    · cases run
      rw [List.map_nil, List.append_nil]
      rfl
  | cons token rest ih =>
    rw [State.run] at run
    cases stepped : state.step size token rest with
    | error result =>
      rw [stepped] at run
      obtain rfl : result = (document, none) := run
      exact absurd rfl (spoilt_of_step stepped sound)
    | ok next =>
      rw [stepped] at run
      obtain ⟨fineNext, same⟩ := lexemes_step fine stepped
      rw [ih fineNext run, same, List.map_cons, List.append_assoc, List.singleton_append]

theorem map_intercalate {α β : Type} (f : α → β) (separator : α) (items : List (List α)) :
    ([separator].intercalate items).map f = [f separator].intercalate (items.map (·.map f)) := by
  cases items with
  | nil => rfl
  | cons first rest => simp [intercalate_cons, List.map_flatMap, List.flatMap_map]

mutual

/-- Without a flaw the lexemes are those of the tree's marks. -/
theorem map_lexemes : (document : Document) → document.skipFault? = none →
    document.lexemes.map (·.mark?) = document.tree.marks.map some
  | .scalar (.word _) _ _, _ | .scalar (.numeral _) _ _, _ => rfl
  | .scalar (.string body) _ _, sound => by
    obtain ⟨stop, closed⟩ := closed_of_skipFault? sound
    simp [lexemes, Document.tree, Tree.marks, Lexeme.mark?, closed]
  | .list start items ending, sound => by
    have inside := map_itemLexemes items (closed_of_list sound).1
    rw [lexemes, Document.tree, Tree.marks]
    simp only [List.map_append, List.map_cons, List.map_nil, map_intercalate, inside]
    rfl
  | .object start members ending, sound => by
    have inside := map_memberLexemes members (closed_of_object sound).1
    rw [lexemes, Document.tree, Tree.marks]
    simp only [List.map_append, List.map_cons, List.map_nil, map_intercalate, inside]
    rfl
  | .flawed flaw _, sound => by
    cases flaw <;> simp [skipFault?] at sound

theorem map_itemLexemes : (items : List (Item Document)) → itemFault? items = none →
    (itemLexemes items).map (·.map (·.mark?)) =
      (Tree.itemMarks (itemTrees items)).map (·.map some)
  | [], _ => rfl
  | item :: rest, sound => by
    rw [itemFault?, Option.or_eq_none_iff] at sound
    rw [itemLexemes, itemTrees, Tree.itemMarks, List.map_cons, List.map_cons,
      map_lexemes item.value sound.1, map_itemLexemes rest sound.2]

theorem map_memberLexemes : (members : List (Member Document)) → memberFault? members = none →
    (memberLexemes members).map (·.map (·.mark?)) =
      (Tree.memberMarks (memberTrees members)).map (·.map some)
  | [], _ => rfl
  | member :: rest, sound => by
    rw [memberFault?, Option.or_eq_none_iff, Option.or_eq_none_iff] at sound
    obtain ⟨stop, closed⟩ := closed_of_skipFault? sound.1.1
    rw [memberLexemes, memberTrees, Tree.memberMarks, List.map_cons, List.map_cons, List.map_cons,
      List.map_cons, map_lexemes member.value sound.1.2, map_memberLexemes rest sound.2]
    simp [Lexeme.mark?, closed]

end

/-- A text with a document without a flaw and nothing after it is laid out from the document's
tree. -/
theorem laid_of_ofText {text : List Char} (made : ofText text = (document, none))
    (sound : document.skipFault? = none) : Laid document.tree.marks text := by
  have fine : (State.value .top false).Fine := nofun
  have marks := map_lexemes document sound
  rw [lexemes_of_run fine made sound, State.lexemes, Context.lexemes, List.nil_append,
    List.map_map] at marks
  exact laid_of_map_scan (Nat.le_refl _) marks

end Document

end TreeSchema.Json
