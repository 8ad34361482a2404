import TreeSchema.Text.Wildcard

/-!
Regular expressions. Of the places where an expression stands for a part of a text the first one
counts, and of the parts that start there the longest one.
-/

namespace TreeSchema.Text

inductive Regex where
  | empty
  | char (c : Char)
  | anyChar
  | oneOf (negated : Bool) (spans : List (Char × Char))
  | lineStart
  | lineEnd
  /-- A place where a word starts, ends, does one of the two, or does none of them. -/
  | wordStart
  | wordEnd
  | wordEdge
  | wordInside
  | group (number : Nat) (body : Regex)
  /-- The same text as the group of this number has matched. -/
  | same (number : Nat)
  | sequence (first second : Regex)
  | either (first second : Regex)
  | repeated (body : Regex) (least : Nat) (most? : Option Nat)
  deriving Repr

namespace Regex

/-- A place in a text, and the parts that groups have matched up to there. -/
structure Place where
  position : Nat
  groups : List (Nat × Nat × Nat)
  deriving DecidableEq, Repr

def isWordChar (c : Char) : Bool :=
  c.isAlphanum || c == '_'

/-- A text in which expressions are looked for. -/
structure Subject where
  characters : Array Char
  ignoreCase : Bool
  /-- Whether the signs for the start and the end stand for those of each line. -/
  byLine : Bool

namespace Subject

def fold (subject : Subject) (c : Char) : Char :=
  if subject.ignoreCase then c.toLower else c

def sameChar (subject : Subject) (a b : Char) : Bool :=
  subject.fold a == subject.fold b

def inSpans (subject : Subject) (spans : List (Char × Char)) (c : Char) : Bool :=
  Wildcard.inSpans spans c ||
    subject.ignoreCase && (Wildcard.inSpans spans c.toLower || Wildcard.inSpans spans c.toUpper)

def startsLine (subject : Subject) (position : Nat) : Bool :=
  position == 0 || subject.byLine && subject.characters[position - 1]? == some '\n'

def endsLine (subject : Subject) (position : Nat) : Bool :=
  position == subject.characters.size ||
    subject.byLine && subject.characters[position]? == some '\n'

/-- Whether there is a word character at a position. -/
def isWordAt (subject : Subject) (position : Nat) : Bool :=
  subject.characters[position]?.any isWordChar

def isWordBefore (subject : Subject) (position : Nat) : Bool :=
  position > 0 && subject.isWordAt (position - 1)

end Subject

/-- Goes over one character if it is as asked. -/
def stepIf (subject : Subject) (holds : Char → Bool) (place : Place) : List Place :=
  match subject.characters[place.position]? with
  | some c => if holds c then [{ place with position := place.position + 1 }] else []
  | none => []

def stayIf (holds : Bool) (place : Place) : List Place :=
  if holds then [place] else []

/-- The places after so many steps, more of them first. Above the least number a step must go on. -/
def repeatStep (step : Place → List Place) (least : Nat) (most? : Option Nat) :
    (fuel : Nat) → (count : Nat) → Place → List Place
  | 0, count, place => stayIf (least ≤ count) place
  | fuel + 1, count, place =>
    let next :=
      if most?.any (· ≤ count) then []
      else
        (step place).filter fun other => other.position > place.position || count < least
    next.flatMap (repeatStep step least most? fuel (count + 1)) ++ stayIf (least ≤ count) place

/-- The part of a text that a group has matched. -/
def groupText (subject : Subject) (groups : List (Nat × Nat × Nat)) (number : Nat) : List Char :=
  match groups.lookup number with
  | some (start, stop) => (subject.characters.extract start stop).toList
  | none => []

/-- The places where what an expression stands for from a place on can end. -/
def ends (subject : Subject) : Regex → Place → List Place
  | empty, place => [place]
  | char c, place => stepIf subject (subject.sameChar c) place
  | anyChar, place => stepIf subject (fun _ => true) place
  | oneOf negated spans, place =>
    stepIf subject (fun c => subject.inSpans spans c != negated) place
  | lineStart, place => stayIf (subject.startsLine place.position) place
  | lineEnd, place => stayIf (subject.endsLine place.position) place
  | wordStart, place =>
    stayIf (!subject.isWordBefore place.position && subject.isWordAt place.position) place
  | wordEnd, place =>
    stayIf (subject.isWordBefore place.position && !subject.isWordAt place.position) place
  | wordEdge, place =>
    stayIf (subject.isWordBefore place.position != subject.isWordAt place.position) place
  | wordInside, place =>
    stayIf (subject.isWordBefore place.position == subject.isWordAt place.position) place
  | group number body, place =>
    (ends subject body place).map fun other =>
      { other with
        groups := (number, place.position, other.position) ::
          other.groups.filter (·.1 != number) }
  | same number, place =>
    (groupText subject place.groups number).foldl (fun places c =>
      places.flatMap (stepIf subject (subject.sameChar c))) (stayIf
        (place.groups.lookup number).isSome place)
  | sequence first second, place => (ends subject first place).flatMap (ends subject second)
  | either first second, place => ends subject first place ++ ends subject second place
  | repeated body least most?, place =>
    repeatStep (ends subject body) least most?
      (subject.characters.size - place.position + least + 1) 0 place

/-- A part of a text that an expression stands for. -/
structure Match where
  start : Nat
  stop : Nat
  groups : List (Nat × Nat × Nat)

/-- The first of the longest. -/
def longest? : List Place → Option Place
  | [] => none
  | place :: rest =>
    match longest? rest with
    | some other => if other.position > place.position then some other else some place
    | none => some place

/-- The longest part from a position on. -/
def matchAt? (regex : Regex) (subject : Subject) (start : Nat) : Option Match :=
  (longest? (ends subject regex ⟨start, []⟩)).map fun place => ⟨start, place.position, place.groups⟩

/-- The first match at one of `count` positions. -/
def searchFrom? (regex : Regex) (subject : Subject) : (count : Nat) → (start : Nat) → Option Match
  | 0, _ => none
  | count + 1, start =>
    match regex.matchAt? subject start with
    | some found => some found
    | none => regex.searchFrom? subject count (start + 1)

/-- The first match from a position on. -/
def search? (regex : Regex) (subject : Subject) (start : Nat) : Option Match :=
  regex.searchFrom? subject (subject.characters.size + 1 - start) start

end Regex

end TreeSchema.Text
