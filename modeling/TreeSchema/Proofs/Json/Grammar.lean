import TreeSchema.Json.Token

/-!
JSON texts by their grammar. A tree is what a text says, its marks are the order in which it does,
and a text lays marks out with white space between them.
-/

namespace TreeSchema.Json

/-- A JSON value, however its text is laid out. -/
inductive Tree where
  | word (word : Word)
  | numeral (numeral : Numeral)
  | string (parts : List Part)
  | list (items : List Tree)
  | object (members : List (List Part × Tree))

/-- A token without its place. -/
inductive Mark where
  | openList
  | closeList
  | openObject
  | closeObject
  | comma
  | colon
  | word (word : Word)
  | numeral (numeral : Numeral)
  | string (parts : List Part)

namespace Tree

mutual

/-- The marks of a tree in their order. -/
def marks : Tree → List Mark
  | word w => [.word w]
  | numeral n => [.numeral n]
  | string parts => [.string parts]
  | list items => .openList :: [.comma].intercalate (itemMarks items) ++ [.closeList]
  | object members => .openObject :: [.comma].intercalate (memberMarks members) ++ [.closeObject]

def itemMarks : List Tree → List (List Mark)
  | [] => []
  | item :: rest => item.marks :: itemMarks rest

def memberMarks : List (List Part × Tree) → List (List Mark)
  | [] => []
  | (key, value) :: rest => (.string key :: .colon :: value.marks) :: memberMarks rest

end

end Tree

/-- The characters that the parts of a string stand for. Halves of surrogate pairs stand for nothing
by themselves. -/
def meaning? : List Part → Option (List Char)
  | [] => some []
  | .char c :: rest | .escape c :: rest => (meaning? rest).map (c :: ·)
  | .unit u :: rest =>
    if isTrailing u then none
    else if isLeading u then
      match rest with
      | .unit v :: rest => if isTrailing v then (meaning? rest).map (pairChar u v :: ·) else none
      | _ => none
    else (meaning? rest).map (Char.ofNat u :: ·)

/-- The parts stand for the text. -/
def Means (parts : List Part) (text : String) : Prop :=
  meaning? parts = some text.toList

/-- The parts of a text that is written without escapes. -/
def spelled (text : String) : List Part :=
  text.toList.map .char

theorem means_spelled_iff {text other : String} : Means (spelled text) other ↔ text = other := by
  have chars (list : List Char) : meaning? (list.map .char) = some list := by
    induction list with
    | nil => rfl
    | cons c rest ih => rw [List.map_cons, meaning?, ih, Option.map_some]
  rw [Means, spelled, chars, Option.some_inj, String.toList_inj]

/-! ### How marks are written -/

def Word.chars : Word → List Char
  | null => ['n', 'u', 'l', 'l']
  | true => ['t', 'r', 'u', 'e']
  | false => ['f', 'a', 'l', 's', 'e']

/-- A run of digits that is not empty. -/
def AreDigits (digits : List Char) : Prop :=
  digits ≠ [] ∧ ∀ c ∈ digits, c.isDigit = true

inductive FractionWritten : Option (List Char) → List Char → Prop
  | none : FractionWritten none []
  | some {places : List Char} (digits : AreDigits places) :
    FractionWritten (some places) ('.' :: places)

inductive SignWritten : Bool → List Char → Prop
  | none : SignWritten false []
  | plus : SignWritten false ['+']
  | minus : SignWritten true ['-']

inductive ExponentWritten : Option (Bool × List Char) → List Char → Prop
  | none : ExponentWritten none []
  | some {c : Char} {negative : Bool} {sign exponent : List Char} (letter : c = 'e' ∨ c = 'E')
    (signed : SignWritten negative sign) (digits : AreDigits exponent) :
    ExponentWritten (some (negative, exponent)) (c :: sign ++ exponent)

/-- Numbers have no superfluous zeros in front. -/
structure Numeral.Written (numeral : Numeral) (text : List Char) : Prop where
  digits : AreDigits numeral.whole
  zero : numeral.whole.head? = some '0' → numeral.whole = ['0']
  parts : ∃ fraction exponent, FractionWritten numeral.fraction fraction ∧
    ExponentWritten numeral.exponent exponent ∧
    text = (if numeral.negative then ['-'] else []) ++ numeral.whole ++ fraction ++ exponent

/-- The number that hexadecimal digits stand for. -/
inductive HexWritten : Nat → List Char → Prop
  | nil : HexWritten 0 []
  | snoc {value digit : Nat} {digits : List Char} {c : Char} (front : HexWritten value digits)
    (known : hexValue? c = some digit) : HexWritten (value * 16 + digit) (digits ++ [c])

inductive Part.Written : Part → List Char → Prop
  | char {c : Char} (quote : c ≠ '"') (backslash : c ≠ '\\') (printable : ¬c.toNat < 32) :
    Written (.char c) [c]
  | escape {letter c : Char} (known : escapedChar? letter = some c) :
    Written (.escape c) ['\\', letter]
  | unit {value : Nat} {digits : List Char} (hex : HexWritten value digits)
    (four : digits.length = 4) : Written (.unit value) ('\\' :: 'u' :: digits)

inductive PartsWritten : List Part → List Char → Prop
  | nil : PartsWritten [] []
  | cons {part : Part} {parts : List Part} {chars rest : List Char} (first : part.Written chars)
    (others : PartsWritten parts rest) : PartsWritten (part :: parts) (chars ++ rest)

inductive Mark.Written : Mark → List Char → Prop
  | openList : Written .openList ['[']
  | closeList : Written .closeList [']']
  | openObject : Written .openObject ['{']
  | closeObject : Written .closeObject ['}']
  | comma : Written .comma [',']
  | colon : Written .colon [':']
  | word (word : Word) : Written (.word word) word.chars
  | numeral {numeral : Numeral} {text : List Char} (written : numeral.Written text) :
    Written (.numeral numeral) text
  | string {parts : List Part} {text : List Char} (written : PartsWritten parts text) :
    Written (.string parts) ('"' :: text ++ ['"'])

/-- The text has the marks in this order, and otherwise only white space between and around them. -/
inductive Laid : List Mark → List Char → Prop
  | nil {gap : List Char} (blank : ∀ c ∈ gap, isSpace c = true) : Laid [] gap
  | cons {gap text rest : List Char} {mark : Mark} {marks : List Mark}
    (blank : ∀ c ∈ gap, isSpace c = true) (written : mark.Written text) (laid : Laid marks rest) :
    Laid (mark :: marks) (gap ++ text ++ rest)

end TreeSchema.Json
