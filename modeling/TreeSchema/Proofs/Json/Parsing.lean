import TreeSchema.Json.Document
import TreeSchema.Proofs.Json.Scanning

/-!
The document of a text that is laid out from a tree has no flaw and is the tree's, and nothing comes
after it.
-/

namespace TreeSchema.Json

namespace Document

mutual

/-- What a document says, without its places. A flaw says nothing. -/
def tree : Document → Tree
  | scalar (.word w) _ _ => .word w
  | scalar (.numeral n) _ _ => .numeral n
  | scalar (.string body) _ _ => .string (body.parts.map (·.1))
  | list _ items _ => .list (itemTrees items)
  | object _ members _ => .object (memberTrees members)
  | flawed _ _ => .word .null

def itemTrees : List (Item Document) → List Tree
  | [] => []
  | item :: rest => item.value.tree :: itemTrees rest

def memberTrees : List (Member Document) → List (List Part × Tree)
  | [] => []
  | member :: rest => (member.key.parts.map (·.1), member.value.tree) :: memberTrees rest

end

end Document

/-- The document has no flaw and says what the tree says. -/
def Document.IsOf (document : Document) (tree : Tree) : Prop :=
  document.skipFault? = none ∧ document.tree = tree

/-- The member has no flaw and says what the key and the tree say. -/
structure Member.IsOf (member : Member Document) (key : List Part) (tree : Tree) : Prop where
  closed : member.key.ending.skipFault? = none
  parts : member.key.parts.map (·.1) = key
  value : member.value.IsOf tree

namespace Document

variable {size start stop : Nat} {token : Token} {tokens rest : List Token} {mark : Mark}
  {marks front back : List Mark} {items : List (Item Document)}
  {members : List (Member Document)} {body : Body} {outer context : Context}
  {state next : State} {document root : Document}

/-! ### Documents without a flaw -/

theorem closed_of_skipFault? {ending : BodyEnd} (sound : ending.skipFault? = none) :
    ∃ stop, ending = .closed stop := by
  cases ending with
  | closed stop => exact ⟨stop, rfl⟩
  | unclosed | control | badLetter | badHex => cases sound

theorem closed_of_list {ending : ListEnd}
    (sound : (Document.list start items ending).skipFault? = none) :
    itemFault? items = none ∧ ∃ stop, ending = .closed stop := by
  cases ending <;> simp_all [skipFault?]

theorem closed_of_object {ending : ObjectEnd}
    (sound : (Document.object start members ending).skipFault? = none) :
    memberFault? members = none ∧ ∃ stop, ending = .closed stop := by
  cases ending <;> simp_all [skipFault?]

/-! ### From marks to documents -/

/-- The tokens are those of the marks, in their order. -/
def Bears (tokens : List Token) (marks : List Mark) : Prop :=
  tokens.map (·.lexeme.mark?) = marks.map some

theorem bears_cons_iff : Bears tokens (mark :: marks) ↔
    ∃ token rest, tokens = token :: rest ∧ token.lexeme.mark? = some mark ∧ Bears rest marks :=
  List.map_eq_cons_iff

theorem bears_append_iff : Bears tokens (front ++ back) ↔
    ∃ before after, tokens = before ++ after ∧ Bears before front ∧ Bears after back := by
  rw [Bears, List.map_append]
  exact List.map_eq_append_iff

/-- The state goes on to another one with the marks, whatever tokens come after them. -/
def Runs (size : Nat) (tree : Tree) : Prop :=
  ∀ tokens, Bears tokens tree.marks → ∀ context first rest,
    ∃ document : Document, document.IsOf tree ∧
      State.run size (.value context first) (tokens ++ rest) =
        State.run size (context.deliver size document rest) rest

theorem run_cons (stepped : state.step size token rest = .ok next) :
    state.run size (token :: rest) = next.run size rest := by
  rw [State.run, stepped]

theorem eq_of_mark? {lexeme other : Lexeme} (marked : lexeme.mark? = some mark)
    (known : other.mark? = some mark) (plain : ∀ parts, mark ≠ .string parts) : lexeme = other := by
  cases lexeme with
  | string body =>
    rw [Lexeme.mark?] at marked
    split at marked
    next => exact absurd (Option.some.inj marked).symm (plain _)
    next => cases marked
  | brokenWord | brokenNumeral | stray => cases marked
  | _ =>
    cases marked
    cases other with
    | string body =>
      rw [Lexeme.mark?] at known
      split at known <;> cases known
    | _ => cases known <;> rfl

theorem exists_body_of_mark? {lexeme : Lexeme} {parts : List Part}
    (marked : lexeme.mark? = some (.string parts)) :
    ∃ body stop, lexeme = .string body ∧ body.parts.map (·.1) = parts ∧
      body.ending = .closed stop := by
  cases lexeme with
  | string body =>
    rw [Lexeme.mark?] at marked
    split at marked
    next stop closed => exact ⟨body, stop, rfl, Mark.string.inj (Option.some.inj marked), closed⟩
    next => cases marked
  | _ => cases marked

/-- The tokens after an item of a list. -/
theorem run_items {trees : List Tree} (all : ∀ tree ∈ trees, Runs size tree)
    (bears : Bears tokens ((Tree.itemMarks trees).flatMap (.comma :: ·) ++ [.closeList]))
    (before : List (Item Document)) (outer : Context) (rest : List Token) :
    ∃ others stop, itemFault? others = none ∧ itemTrees others = trees ∧
      State.run size (.afterItem start before outer) (tokens ++ rest) =
        State.run size
          (outer.deliver size (.list start (before.reverse ++ others) (.closed stop)) rest)
          rest := by
  induction trees generalizing tokens before with
  | nil =>
    obtain ⟨⟨lexeme, place, stop⟩, others, rfl, marked, nothing⟩ := bears_cons_iff.mp bears
    obtain rfl := List.map_eq_nil_iff.mp nothing
    obtain rfl : lexeme = .closeList := eq_of_mark? marked rfl nofun
    refine ⟨[], stop, rfl, rfl, ?_⟩
    rw [List.append_nil]
    exact run_cons rfl
  | cons tree trees ih =>
    obtain ⟨first, all⟩ := List.forall_mem_cons.mp all
    rw [Tree.itemMarks, List.flatMap_cons, List.append_assoc, List.cons_append] at bears
    obtain ⟨⟨lexeme, place, stop⟩, others, rfl, marked, both⟩ := bears_cons_iff.mp bears
    obtain rfl : lexeme = .comma := eq_of_mark? marked rfl nofun
    obtain ⟨own, later, rfl, bearsOwn, bearsLater⟩ := bears_append_iff.mp both
    obtain ⟨document, isOf, run⟩ :=
      first _ bearsOwn (.list start before outer) false (later ++ rest)
    let item : Item Document := ⟨document, closeList size (later ++ rest)⟩
    obtain ⟨items, stop, sound, same, runLater⟩ := ih all bearsLater (item :: before)
    refine ⟨item :: items, stop, ?_, ?_, ?_⟩
    · rw [itemFault?, isOf.1, sound]
      rfl
    · rw [itemTrees, isOf.2, same]
    · rw [List.reverse_cons, List.append_assoc, List.singleton_append] at runLater
      rw [List.cons_append, List.append_assoc, run_cons rfl, run]
      exact runLater

/-- The document of a key that is read. -/
theorem run_key {key : List Part} {value : Tree} (runs : Runs size value)
    (bears : Bears tokens (.string key :: .colon :: value.marks)) (start : Nat)
    (before : List (Member Document)) (outer : Context) (rest : List Token) :
    ∃ member : Member Document, member.IsOf key value ∧
      State.run size (.key start before outer) (tokens ++ rest) =
        State.run size (.afterMember start (member :: before) outer) rest := by
  obtain ⟨⟨lexeme, place, stop⟩, others, rfl, marked, more⟩ := bears_cons_iff.mp bears
  obtain ⟨body, after, rfl, same, closed⟩ := exists_body_of_mark? marked
  obtain ⟨⟨lexeme, follow, _⟩, others, rfl, marked, bearsValue⟩ := bears_cons_iff.mp more
  obtain rfl : lexeme = .colon := eq_of_mark? marked rfl nofun
  let waiting : Waiting := ⟨start, before, body, stop, follow⟩
  obtain ⟨document, isOf, run⟩ := runs _ bearsValue (.object waiting outer) false rest
  refine ⟨⟨body, stop, follow, document, closeObject size rest⟩, ⟨?_, same, isOf⟩, ?_⟩
  · rw [closed]
    rfl
  · rw [List.cons_append, List.cons_append, run_cons rfl, run_cons rfl]
    exact run

/-- The tokens after a member of an object. -/
theorem run_members {trees : List (List Part × Tree)} (all : ∀ tree ∈ trees, Runs size tree.2)
    (bears : Bears tokens ((Tree.memberMarks trees).flatMap (.comma :: ·) ++ [.closeObject]))
    (before : List (Member Document)) (outer : Context) (rest : List Token) :
    ∃ others stop, memberFault? others = none ∧ memberTrees others = trees ∧
      State.run size (.afterMember start before outer) (tokens ++ rest) =
        State.run size
          (outer.deliver size (.object start (before.reverse ++ others) (.closed stop)) rest)
          rest := by
  induction trees generalizing tokens before with
  | nil =>
    obtain ⟨⟨lexeme, place, stop⟩, others, rfl, marked, nothing⟩ := bears_cons_iff.mp bears
    obtain rfl := List.map_eq_nil_iff.mp nothing
    obtain rfl : lexeme = .closeObject := eq_of_mark? marked rfl nofun
    refine ⟨[], stop, rfl, rfl, ?_⟩
    rw [List.append_nil]
    exact run_cons rfl
  | cons tree trees ih =>
    obtain ⟨first, all⟩ := List.forall_mem_cons.mp all
    rw [Tree.memberMarks, List.flatMap_cons, List.append_assoc, List.cons_append] at bears
    obtain ⟨⟨lexeme, place, stop⟩, others, rfl, marked, both⟩ := bears_cons_iff.mp bears
    obtain rfl : lexeme = .comma := eq_of_mark? marked rfl nofun
    obtain ⟨own, later, rfl, bearsOwn, bearsLater⟩ := bears_append_iff.mp both
    obtain ⟨member, isOf, run⟩ :=
      run_key first bearsOwn start before outer (later ++ rest)
    obtain ⟨members, stop, sound, same, runLater⟩ := ih all bearsLater (member :: before)
    refine ⟨member :: members, stop, ?_, ?_, ?_⟩
    · rw [memberFault?, isOf.closed, isOf.value.1, sound]
      rfl
    · rw [memberTrees, isOf.parts, isOf.value.2, same]
    · rw [List.reverse_cons, List.append_assoc, List.singleton_append] at runLater
      rw [List.cons_append, List.append_assoc, run_cons rfl, run]
      exact runLater

theorem runs_list {trees : List Tree} (all : ∀ tree ∈ trees, Runs size tree) :
    Runs size (.list trees) := by
  intro tokens bears context first rest
  rw [Tree.marks, List.cons_append] at bears
  obtain ⟨⟨lexeme, start, _⟩, others, rfl, marked, inside⟩ := bears_cons_iff.mp bears
  obtain rfl : lexeme = .openList := eq_of_mark? marked rfl nofun
  cases trees with
  | nil =>
    obtain ⟨⟨lexeme, place, stop⟩, others, rfl, marked, nothing⟩ := bears_cons_iff.mp inside
    obtain rfl := List.map_eq_nil_iff.mp nothing
    obtain rfl : lexeme = .closeList := eq_of_mark? marked rfl nofun
    exact ⟨.list start [] (.closed stop), ⟨rfl, rfl⟩, (run_cons rfl).trans (run_cons rfl)⟩
  | cons tree trees =>
    obtain ⟨firstRuns, all⟩ := List.forall_mem_cons.mp all
    rw [Tree.itemMarks, intercalate_cons, List.append_assoc] at inside
    obtain ⟨own, later, rfl, bearsOwn, bearsLater⟩ := bears_append_iff.mp inside
    obtain ⟨document, isOf, run⟩ :=
      firstRuns _ bearsOwn (.list start [] context) true (later ++ rest)
    let item : Item Document := ⟨document, closeList size (later ++ rest)⟩
    obtain ⟨items, stop, sound, same, runLater⟩ := run_items all bearsLater [item] context rest
    refine ⟨.list start (item :: items) (.closed stop), ⟨?_, ?_⟩, ?_⟩
    · rw [skipFault?, itemFault?, isOf.1, sound]
      rfl
    · rw [Document.tree, itemTrees, isOf.2, same]
    · rw [List.cons_append, List.append_assoc, run_cons rfl, run]
      exact runLater

theorem runs_object {trees : List (List Part × Tree)} (all : ∀ tree ∈ trees, Runs size tree.2) :
    Runs size (.object trees) := by
  intro tokens bears context first rest
  rw [Tree.marks, List.cons_append] at bears
  obtain ⟨⟨lexeme, start, _⟩, others, rfl, marked, inside⟩ := bears_cons_iff.mp bears
  obtain rfl : lexeme = .openObject := eq_of_mark? marked rfl nofun
  cases trees with
  | nil =>
    obtain ⟨⟨lexeme, place, stop⟩, others, rfl, marked, nothing⟩ := bears_cons_iff.mp inside
    obtain rfl := List.map_eq_nil_iff.mp nothing
    obtain rfl : lexeme = .closeObject := eq_of_mark? marked rfl nofun
    exact ⟨.object start [] (.closed stop), ⟨rfl, rfl⟩, (run_cons rfl).trans (run_cons rfl)⟩
  | cons tree trees =>
    obtain ⟨firstRuns, all⟩ := List.forall_mem_cons.mp all
    rw [Tree.memberMarks, intercalate_cons, List.append_assoc] at inside
    obtain ⟨own, later, rfl, bearsOwn, bearsLater⟩ := bears_append_iff.mp inside
    obtain ⟨member, isOf, run⟩ := run_key firstRuns bearsOwn start [] context (later ++ rest)
    obtain ⟨members, stop, sound, same, runLater⟩ :=
      run_members all bearsLater [member] context rest
    refine ⟨.object start (member :: members) (.closed stop), ⟨?_, ?_⟩, ?_⟩
    · rw [skipFault?, memberFault?, isOf.closed, isOf.value.1, sound]
      rfl
    · rw [Document.tree, memberTrees, isOf.parts, isOf.value.2, same]
    · rw [List.cons_append, List.append_assoc, run_cons rfl, run]
      exact runLater

variable (size)

mutual

theorem runs_tree : (tree : Tree) → Runs size tree
  | .word word => by
    intro tokens bears context first rest
    obtain ⟨⟨lexeme, start, stop⟩, others, rfl, marked, nothing⟩ := bears_cons_iff.mp bears
    obtain rfl := List.map_eq_nil_iff.mp nothing
    obtain rfl : lexeme = .word word := eq_of_mark? marked rfl nofun
    exact ⟨_, ⟨rfl, rfl⟩, run_cons rfl⟩
  | .numeral numeral => by
    intro tokens bears context first rest
    obtain ⟨⟨lexeme, start, stop⟩, others, rfl, marked, nothing⟩ := bears_cons_iff.mp bears
    obtain rfl := List.map_eq_nil_iff.mp nothing
    obtain rfl : lexeme = .numeral numeral := eq_of_mark? marked rfl nofun
    exact ⟨_, ⟨rfl, rfl⟩, run_cons rfl⟩
  | .string parts => by
    intro tokens bears context first rest
    obtain ⟨⟨lexeme, start, stop⟩, others, rfl, marked, nothing⟩ := bears_cons_iff.mp bears
    obtain rfl := List.map_eq_nil_iff.mp nothing
    obtain ⟨body, after, rfl, same, closed⟩ := exists_body_of_mark? marked
    refine ⟨.scalar (.string body) start stop, ⟨?_, ?_⟩, run_cons rfl⟩
    · rw [skipFault?, closed]
      rfl
    · rw [Document.tree, same]
  | .list items => runs_list (runs_items items)
  | .object members => runs_object (runs_members members)

theorem runs_items : (items : List Tree) → ∀ tree ∈ items, Runs size tree
  | [] => nofun
  | item :: rest => List.forall_mem_cons.mpr ⟨runs_tree item, runs_items rest⟩

theorem runs_members : (members : List (List Part × Tree)) → ∀ tree ∈ members, Runs size tree.2
  | [] => nofun
  | (_, value) :: rest => List.forall_mem_cons.mpr ⟨runs_tree value, runs_members rest⟩

end

/-- A text that is laid out from a tree is a document of the tree. -/
theorem exists_ofText_of_laid {tree : Tree} {text : List Char} (laid : Laid tree.marks text) :
    ∃ document, ofText text = (document, none) ∧ document.IsOf tree := by
  have bears : Bears (tokens text) tree.marks :=
    map_scan_of_laid laid (spaced_marks tree) 0 (Nat.le_refl _)
  obtain ⟨document, isOf, run⟩ := runs_tree (Text.byteSize text) tree _ bears .top false []
  rw [List.append_nil] at run
  exact ⟨document, run, isOf⟩

end Document

end TreeSchema.Json
