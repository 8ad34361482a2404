import TreeSchema.Proofs.Ast.Pieces

/-!
What can be read back from the text of an expression. Lexemes end where a space or a parenthesis
stands, and every pair of parentheses shows what is in it, so expressions have the same text only if
they have the same skeleton.
-/

namespace TreeSchema.Ast

/-! ### Skeletons -/

/-- What is seen of an expression: how it is nested, and the lexemes of leaves and operators. Leaves
of all kinds look alike. -/
inductive Skeleton where
  | leaf (lexeme : String)
  | group (inner : Skeleton)
  | unary (operator : String) (inner : Skeleton)
  | binary (left : Skeleton) (operator : String) (right : Skeleton)
  deriving DecidableEq, Repr

mutual

def Expr.skeleton : Expr → Skeleton
  | .number record => .leaf record.token.lexeme
  | .string record => .leaf record.token.lexeme
  | .var record => .leaf record.identifier.lexeme
  | .bool record => .leaf record.token.lexeme
  | .group record => record.skeleton
  | .unary record => record.skeleton
  | .binary record => record.skeleton

def GroupExpr.skeleton : GroupExpr → Skeleton
  | .record _ inner _ => .group inner.skeleton

def PrefixExpr.skeleton : PrefixExpr → Skeleton
  | .record operator inner => .unary operator.lexeme inner.skeleton

def InfixExpr.skeleton : InfixExpr → Skeleton
  | .record left operator right => .binary left.skeleton operator.lexeme right.skeleton

end

/-- A text that ends where something else begins: it is not empty, and has neither a space nor a
parenthesis. -/
def IsWord (text : String) : Prop :=
  text ≠ "" ∧ ∀ c ∈ text.toList, c ≠ ' ' ∧ c ≠ '(' ∧ c ≠ ')'

instance : DecidablePred IsWord := fun text =>
  @instDecidableAnd _ _ inferInstance (List.decidableBAll _ text.toList)

namespace Skeleton

variable {skeleton other : Skeleton} {lexeme word : String} {rest after : List Char}

def lexemes : Skeleton → List String
  | .leaf lexeme => [lexeme]
  | .group inner => inner.lexemes
  | .unary operator inner => operator :: inner.lexemes
  | .binary left operator right => operator :: left.lexemes ++ right.lexemes

/-- Every lexeme can be told from what stands around it. -/
def Legible (skeleton : Skeleton) : Prop := ∀ lexeme ∈ skeleton.lexemes, IsWord lexeme

instance : DecidablePred Legible := fun skeleton => List.decidableBAll _ skeleton.lexemes

@[simp]
theorem legible_leaf_iff : (leaf lexeme).Legible ↔ IsWord lexeme := by
  simp [Legible, lexemes]

@[simp]
theorem legible_group_iff : (group skeleton).Legible ↔ skeleton.Legible := Iff.rfl

@[simp]
theorem legible_unary_iff : (unary lexeme skeleton).Legible ↔ IsWord lexeme ∧ skeleton.Legible := by
  simp [Legible, lexemes]

@[simp]
theorem legible_binary_iff : (binary skeleton lexeme other).Legible ↔
    IsWord lexeme ∧ skeleton.Legible ∧ other.Legible := by
  simp [Legible, lexemes, or_imp, forall_and]

def chars : Skeleton → List Char
  | .leaf lexeme => lexeme.toList
  | .group inner => '(' :: inner.chars ++ [')']
  | .unary operator inner => '(' :: operator.toList ++ ' ' :: inner.chars ++ [')']
  | .binary left operator right =>
    '(' :: operator.toList ++ ' ' :: left.chars ++ ' ' :: right.chars ++ [')']

/-! ### Words -/

/-- Nothing follows, or what separates an expression from the next one or closes the one around
it. -/
def AtBoundary (rest : List Char) : Prop := ∀ c ∈ rest.head?, c = ' ' ∨ c = ')'

/-- A word goes on as long as there are characters of words. -/
theorem takeWhile_word (isWord : IsWord word) (boundary : AtBoundary rest) :
    (word.toList ++ rest).takeWhile (fun c => c ≠ ' ' ∧ c ≠ '(' ∧ c ≠ ')') = word.toList := by
  have stops : rest.takeWhile (fun c => c ≠ ' ' ∧ c ≠ '(' ∧ c ≠ ')') = [] := by
    cases rest with
    | nil => rfl
    | cons c rest => rcases boundary c rfl with rfl | rfl <;> rfl
  rw [List.takeWhile_append_of_pos, stops, List.append_nil]
  intro c inside
  exact decide_eq_true (isWord.2 c inside)

theorem word_append_inj (isWord : IsWord word) (isWordToo : IsWord lexeme)
    (boundary : AtBoundary rest) (boundaryToo : AtBoundary after)
    (same : word.toList ++ rest = lexeme.toList ++ after) : word = lexeme ∧ rest = after := by
  have words : word.toList = lexeme.toList := by
    rw [← takeWhile_word isWord boundary, same, takeWhile_word isWordToo boundaryToo]
  rw [words] at same
  exact ⟨String.toList_inj.mp words, List.append_cancel_left same⟩

theorem word_append_ne_open (isWord : IsWord word) : word.toList ++ rest ≠ '(' :: after := by
  intro same
  obtain ⟨nonempty, plain⟩ := isWord
  cases chars : word.toList with
  | nil => exact nonempty (String.toList_eq_nil_iff.mp chars)
  | cons c others =>
    rw [chars, List.cons_append] at same
    have inside : c ∈ word.toList := chars ▸ List.mem_cons_self
    exact (plain c inside).2.1 (List.cons.inj same).1

/-! ### What is in parentheses -/

/-- What stands in the parentheses, an operator like a leaf. A leaf has none. -/
def parts : Skeleton → List Skeleton
  | .leaf _ => []
  | .group inner => [inner]
  | .unary operator inner => [.leaf operator, inner]
  | .binary left operator right => [.leaf operator, left, right]

/-- More parts, the closing parenthesis and what follows it. -/
def closing (rest : List Char) : List Skeleton → List Char
  | [] => ')' :: rest
  | part :: others => ' ' :: (part.chars ++ closing rest others)

theorem atBoundary_closing (rest : List Char) (others : List Skeleton) :
    AtBoundary (closing rest others) := by
  cases others <;> simp [closing, AtBoundary]

theorem exists_parts (compound : skeleton.parts ≠ []) : ∃ first others,
    skeleton.parts = first :: others ∧
    ∀ rest, skeleton.chars ++ rest = '(' :: (first.chars ++ closing rest others) := by
  cases skeleton with
  | leaf => exact absurd rfl compound
  | group inner => exact ⟨inner, [], rfl, fun rest => by simp [chars, closing]⟩
  | unary operator inner =>
    exact ⟨.leaf operator, [inner], rfl, fun rest => by simp [chars, closing]⟩
  | binary left operator right =>
    exact ⟨.leaf operator, [left, right], rfl, fun rest => by simp [chars, closing]⟩

theorem legible_of_mem_parts (legible : skeleton.Legible) :
    ∀ part ∈ skeleton.parts, part.Legible := by
  cases skeleton <;> simp_all [parts]

/-- Groups, prefix and infix expressions have one, two and three parts. -/
theorem eq_of_parts_eq (compound : skeleton.parts ≠ []) (same : skeleton.parts = other.parts) :
    skeleton = other := by
  cases skeleton <;> cases other <;> simp_all [parts]

/-! ### Reading back -/

/-- Texts that start with this skeleton start with no other one, and go on alike. -/
def ReadsBack (skeleton : Skeleton) : Prop :=
  ∀ other rest after, other.Legible → AtBoundary rest → AtBoundary after →
    skeleton.chars ++ rest = other.chars ++ after → skeleton = other ∧ rest = after

theorem readsBack_leaf (isWord : IsWord word) : ReadsBack (leaf word) := by
  intro other rest after legible boundary boundaryToo same
  by_cases compound : other.parts = []
  · cases other with
    | leaf lexeme =>
      obtain ⟨words, rests⟩ := word_append_inj isWord (legible_leaf_iff.mp legible) boundary
        boundaryToo same
      exact ⟨congrArg leaf words, rests⟩
    | group | unary | binary => cases compound
  · obtain ⟨first, others, -, text⟩ := exists_parts compound
    rw [text] at same
    exact absurd same (word_append_ne_open isWord)

/-- After a part, a space shows that there is another one, and a parenthesis that there is none. -/
theorem closing_inj {more others : List Skeleton} (readsBack : ∀ part ∈ more, part.ReadsBack)
    (legible : ∀ part ∈ others, part.Legible) (same : closing rest more = closing after others) :
    more = others ∧ rest = after := by
  induction more generalizing others with
  | nil =>
    cases others with
    | nil => exact ⟨rfl, (List.cons.inj same).2⟩
    | cons => simp [closing] at same
  | cons part more ih =>
    cases others with
    | nil => simp [closing] at same
    | cons second others =>
      obtain ⟨readsBackHere, readsBackMore⟩ := List.forall_mem_cons.mp readsBack
      obtain ⟨legibleHere, legibleOthers⟩ := List.forall_mem_cons.mp legible
      obtain ⟨rfl, sameMore⟩ := readsBackHere second _ _ legibleHere (atBoundary_closing _ _)
        (atBoundary_closing _ _) (List.cons.inj same).2
      obtain ⟨rfl, rests⟩ := ih readsBackMore legibleOthers sameMore
      exact ⟨rfl, rests⟩

theorem readsBack_of_parts (compound : skeleton.parts ≠ [])
    (readsBack : ∀ part ∈ skeleton.parts, part.ReadsBack) : skeleton.ReadsBack := by
  intro other rest after legible boundary boundaryToo same
  obtain ⟨first, more, parts, text⟩ := exists_parts compound
  by_cases compoundToo : other.parts = []
  · cases other with
    | leaf lexeme =>
      rw [text] at same
      exact absurd same.symm (word_append_ne_open (legible_leaf_iff.mp legible))
    | group | unary | binary => cases compoundToo
  · obtain ⟨second, others, partsToo, textToo⟩ := exists_parts compoundToo
    have legibleParts := legible_of_mem_parts legible
    rw [text, textToo] at same
    rw [parts, List.forall_mem_cons] at readsBack
    rw [partsToo, List.forall_mem_cons] at legibleParts
    obtain ⟨rfl, sameMore⟩ := readsBack.1 second _ _ legibleParts.1 (atBoundary_closing _ _)
      (atBoundary_closing _ _) (List.cons.inj same).2
    obtain ⟨rfl, rests⟩ := closing_inj readsBack.2 legibleParts.2 sameMore
    exact ⟨eq_of_parts_eq compound (parts.trans partsToo.symm), rests⟩

theorem readsBack_of_legible (legible : skeleton.Legible) : skeleton.ReadsBack := by
  induction skeleton with
  | leaf word => exact readsBack_leaf (legible_leaf_iff.mp legible)
  | group inner ih =>
    have inside : inner.ReadsBack := ih (legible_group_iff.mp legible)
    exact readsBack_of_parts (by simp [parts]) (by simpa [parts] using inside)
  | unary operator inner ih =>
    obtain ⟨isWord, legible⟩ := legible_unary_iff.mp legible
    have inside : inner.ReadsBack := ih legible
    exact readsBack_of_parts (by simp [parts])
      (by simpa [parts] using ⟨readsBack_leaf isWord, inside⟩)
  | binary left operator right ihLeft ihRight =>
    obtain ⟨isWord, legibleLeft, legibleRight⟩ := legible_binary_iff.mp legible
    have onLeft : left.ReadsBack := ihLeft legibleLeft
    have onRight : right.ReadsBack := ihRight legibleRight
    exact readsBack_of_parts (by simp [parts])
      (by simpa [parts] using ⟨readsBack_leaf isWord, onLeft, onRight⟩)

theorem eq_of_chars_eq (legible : skeleton.Legible) (legibleToo : other.Legible)
    (same : skeleton.chars = other.chars) : skeleton = other := by
  have atEnd : AtBoundary [] := nofun
  apply (readsBack_of_legible legible other [] [] legibleToo atEnd atEnd ?_).1
  rw [List.append_nil, List.append_nil, same]

end Skeleton

/-! ### Texts of expressions -/

mutual

theorem Expr.toList_join_pieces :
    (tree : Expr) → (String.join tree.pieces).toList = tree.skeleton.chars
  | .number _ | .string _ | .var _ | .bool _ => by
    simp [Expr.pieces, Expr.skeleton, Skeleton.chars]
  | .group record => by rw [Expr.pieces, Expr.skeleton, record.toList_join_pieces]
  | .unary record => by rw [Expr.pieces, Expr.skeleton, record.toList_join_pieces]
  | .binary record => by rw [Expr.pieces, Expr.skeleton, record.toList_join_pieces]

theorem GroupExpr.toList_join_pieces :
    (record : GroupExpr) → (String.join record.pieces).toList = record.skeleton.chars
  | .record _ inner _ => by
    simp [GroupExpr.pieces, GroupExpr.skeleton, Skeleton.chars, String.join_append,
      inner.toList_join_pieces]

theorem PrefixExpr.toList_join_pieces :
    (record : PrefixExpr) → (String.join record.pieces).toList = record.skeleton.chars
  | .record operator inner => by
    simp [PrefixExpr.pieces, PrefixExpr.skeleton, Skeleton.chars, String.join_append,
      inner.toList_join_pieces]

theorem InfixExpr.toList_join_pieces :
    (record : InfixExpr) → (String.join record.pieces).toList = record.skeleton.chars
  | .record left operator right => by
    simp [InfixExpr.pieces, InfixExpr.skeleton, Skeleton.chars, String.join_append,
      left.toList_join_pieces, right.toList_join_pieces]

end

/-- What is displayed is the skeleton and nothing else. -/
theorem Expr.toList_display (tree : Expr) : (display tree).toList = tree.skeleton.chars := by
  rw [display, tree.isWrittenBy_pieces.pieces_eq, tree.toList_join_pieces]

/-- If lexemes can be told from what stands around them, expressions display alike if and only if
they are nested alike, with the same lexemes in the same places. -/
theorem display_eq_iff_skeleton_eq {tree other : Expr} (legible : tree.skeleton.Legible)
    (legibleToo : other.skeleton.Legible) :
    display tree = display other ↔ tree.skeleton = other.skeleton := by
  rw [← String.toList_inj, tree.toList_display, other.toList_display]
  constructor
  · exact Skeleton.eq_of_chars_eq legible legibleToo
  · exact congrArg Skeleton.chars

/-- Kinds, positions, values and the tokens of parentheses do not show. Where an operator stands
does. -/
theorem display_eq_iff_of_sums :
    let token (kind : TokenKind) (index : Nat) (text : String) : Token := ⟨kind, index, ⟨text, index⟩⟩
    let operator : Token := token .plus 3 "+"
    let one : Expr := NumberExpr.new (token .number 2 "1") 1
    let two : Expr := VarExpr.new (token .identifier 4 "two")
    let sum : Expr :=
      GroupExpr.new (token .parenOpen 1 "(") (InfixExpr.new one operator two)
        (token .parenClose 5 ")")
    let other : Expr :=
      GroupExpr.new (token .if 8 "") (InfixExpr.new (BoolExpr.new (token .true 0 "1") false)
        (token .minus 7 "+") (StringExpr.new (token .string 2 "two") ⟨"2", 9⟩)) (token .eof 6 " ")
    let signed : Expr := InfixExpr.new (PrefixExpr.new operator one) operator two
    display sum = display other ∧
      display signed ≠ display (PrefixExpr.new operator (InfixExpr.new one operator two)) := by
  intro token operator one two sum other signed
  constructor
  · exact (display_eq_iff_skeleton_eq (by decide +kernel) (by decide +kernel)).mpr rfl
  · apply mt (display_eq_iff_skeleton_eq (by decide +kernel) (by decide +kernel)).mp
    decide

end TreeSchema.Ast
