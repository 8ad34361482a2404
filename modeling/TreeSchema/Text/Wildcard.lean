import TreeSchema.Text.Octets

/-!
Patterns for texts. A star stands for any text, a question mark for any character, brackets for one
character of a set, and everything else for itself.
-/

namespace TreeSchema.Text

/-- A character of a text that may be a pattern; a literal one only stands for itself. -/
structure Glyph where
  char : Char
  literal : Bool
  deriving DecidableEq, Repr

namespace Wildcard

inductive Item where
  | char (c : Char)
  | anyChar
  | anyText
  | oneOf (negated : Bool) (spans : List (Char × Char))
  deriving DecidableEq, Repr

abbrev Pattern := List Item

/-- The spans of the characters in a class with a name. -/
def classSpans? : String → Option (List (Char × Char))
  | "alnum" => some [('0', '9'), ('A', 'Z'), ('a', 'z')]
  | "alpha" => some [('A', 'Z'), ('a', 'z')]
  | "blank" => some [('\t', '\t'), (' ', ' ')]
  | "cntrl" => some [('\x00', '\x1f'), ('\x7f', '\x7f')]
  | "digit" => some [('0', '9')]
  | "graph" => some [('!', '~')]
  | "lower" => some [('a', 'z')]
  | "print" => some [(' ', '~')]
  | "punct" => some [('!', '/'), (':', '@'), ('[', '`'), ('\x7b', '~')]
  | "space" => some [('\t', '\x0d'), (' ', ' ')]
  | "upper" => some [('A', 'Z')]
  | "xdigit" => some [('0', '9'), ('A', 'F'), ('a', 'f')]
  | _ => none

def inSpans (spans : List (Char × Char)) (c : Char) : Bool :=
  spans.any fun (low, high) => low ≤ c && c ≤ high

/-- The class that starts after a bracket and a colon, and what is left after it. -/
def class? (text : List Char) : Option (List (Char × Char) × List Char) :=
  let name := text.takeWhile Char.isAlpha
  match text.drop name.length, classSpans? (String.ofList name) with
  | ':' :: ']' :: rest, some spans => some (spans, rest)
  | _, _ => none

/-- The members of a set up to its closing bracket, and what is left after it. A literal bracket
does not close the set. -/
def members? : (fuel : Nat) → (first : Bool) → List Glyph →
    Option (List (Char × Char) × List Glyph)
  | 0, _, _ | _, _, [] => none
  | fuel + 1, first, glyph :: rest =>
    if glyph = ⟨']', false⟩ && !first then some ([], rest)
    else
      let named := if glyph = ⟨'[', false⟩ then
          match rest with
          | ⟨':', _⟩ :: more => class? (more.map (·.char))
          | _ => none
        else none
      match named, rest with
      | some (spans, left), rest =>
        (members? fuel false (rest.drop (rest.length - left.length))).map
          fun (others, rest) => (spans ++ others, rest)
      | none, ⟨'-', false⟩ :: high :: more =>
        if high = ⟨']', false⟩ then
          (members? fuel false rest).map fun (others, rest) =>
            ((glyph.char, glyph.char) :: others, rest)
        else
          (members? fuel false more).map fun (others, rest) =>
            ((glyph.char, high.char) :: others, rest)
      | none, rest =>
        (members? fuel false rest).map fun (others, rest) =>
          ((glyph.char, glyph.char) :: others, rest)

/-- The set that starts after a bracket. -/
def set? (glyphs : List Glyph) : Option (Item × List Glyph) :=
  match glyphs with
  | ⟨'!', false⟩ :: rest =>
    (members? (rest.length + 1) true rest).map fun (spans, rest) => (.oneOf true spans, rest)
  | rest =>
    (members? (rest.length + 1) true rest).map fun (spans, rest) => (.oneOf false spans, rest)

/-- Makes a character literal that stands after a backslash. -/
def unescaped : List Glyph → List Glyph
  | ⟨'\\', false⟩ :: glyph :: rest => ⟨glyph.char, true⟩ :: unescaped rest
  | glyph :: rest => glyph :: unescaped rest
  | [] => []

def items : (fuel : Nat) → List Glyph → Pattern
  | 0, _ | _, [] => []
  | fuel + 1, glyph :: rest =>
    if glyph.literal then .char glyph.char :: items fuel rest
    else
      match glyph.char with
      | '*' => .anyText :: items fuel rest
      | '?' => .anyChar :: items fuel rest
      | '[' =>
        match set? rest with
        | some (item, rest) => item :: items fuel rest
        | none => .char '[' :: items fuel rest
      | c => .char c :: items fuel rest

/-- The pattern that is written with these characters. -/
def ofGlyphs (glyphs : List Glyph) : Pattern :=
  items glyphs.length (unescaped glyphs)

/-- Whether a text may be a pattern for other texts than itself. -/
def isPattern (glyphs : List Glyph) : Bool :=
  glyphs.any fun glyph => !glyph.literal && ['*', '?', '['].contains glyph.char

/-- Whether something holds of a text or of what is left of it after some characters. -/
def someSuffix (holds : List Char → Bool) : List Char → Bool
  | [] => holds []
  | c :: rest => holds (c :: rest) || someSuffix holds rest

/-- Whether a pattern stands for a text. -/
def isMatch : Pattern → List Char → Bool
  | [], text => text.isEmpty
  | .char c :: rest, d :: text => c == d && isMatch rest text
  | .anyChar :: rest, _ :: text => isMatch rest text
  | .oneOf negated spans :: rest, c :: text => inSpans spans c != negated && isMatch rest text
  | .anyText :: rest, text => someSuffix (isMatch rest) text
  | _ :: _, [] => false

/-- The first of some lengths for which a text is matched up to there. -/
def trimLeft (pattern : Pattern) (lengths : List Nat) (text : List Char) : List Char :=
  match lengths.find? fun length => isMatch pattern (text.take length) with
  | some length => text.drop length
  | none => text

/-- Takes away the start of a text that the pattern stands for, or the end of it. -/
def trim (pattern : Pattern) (left longest : Bool) (text : List Char) : List Char :=
  let lengths := List.range (text.length + 1)
  if left then trimLeft pattern (if longest then lengths.reverse else lengths) text
  else
    match (if longest then lengths else lengths.reverse).find? fun length =>
        isMatch pattern (text.drop length) with
    | some length => text.take length
    | none => text

end Wildcard

end TreeSchema.Text
