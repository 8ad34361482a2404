/-!
Positional templates. `{}` holds the place of an argument, a doubled brace stands for one brace, and
any other brace is refused.
-/

namespace TreeSchema

/-- A run of literal text or the place of an argument. -/
inductive Segment where
  | text (text : String)
  | placeholder
  deriving DecidableEq, Repr

/-- A brace without its partner, and the byte it is at. -/
inductive TemplateFault where
  | unmatchedOpen (offset : Nat)
  | unmatchedClose (offset : Nat)
  deriving DecidableEq, Repr

namespace TemplateFault

def offset : TemplateFault → Nat
  | .unmatchedOpen offset => offset
  | .unmatchedClose offset => offset

def message : TemplateFault → String
  | .unmatchedOpen offset => "unmatched `\x7b` at byte " ++ toString offset
  | .unmatchedClose offset => "unmatched `\x7d` at byte " ++ toString offset

end TemplateFault

namespace Template

/-- One character of literal text or one place of an argument. -/
inductive Piece where
  | char (c : Char)
  | placeholder
  deriving DecidableEq, Repr

/-- The pieces of a format that starts at byte `offset`. -/
def pieces (offset : Nat) : List Char → Except TemplateFault (List Piece)
  | [] => .ok []
  | '{' :: '{' :: rest => (pieces (offset + 2) rest).map (.char '{' :: ·)
  | '{' :: '}' :: rest => (pieces (offset + 2) rest).map (.placeholder :: ·)
  | '}' :: '}' :: rest => (pieces (offset + 2) rest).map (.char '}' :: ·)
  | c :: rest =>
    if c = '{' then .error (.unmatchedOpen offset)
    else if c = '}' then .error (.unmatchedClose offset)
    else (pieces (offset + c.utf8Size) rest).map (.char c :: ·)

/-- Adds a character in front, to the first text if the segments start with one. -/
def consChar (c : Char) : List Segment → List Segment
  | .text text :: rest => .text (String.singleton c ++ text) :: rest
  | rest => .text (String.singleton c) :: rest

/-- Pieces with the neighbouring characters joined. -/
def join : List Piece → List Segment
  | [] => []
  | .char c :: rest => consChar c (join rest)
  | .placeholder :: rest => .placeholder :: join rest

/-- The segments of a format. -/
def parse (format : String) : Except TemplateFault (List Segment) :=
  (pieces 0 format.toList).map join

/-- How many arguments the segments take. -/
def placeholders (segments : List Segment) : Nat :=
  segments.count .placeholder

/-- The literal text of the segments. -/
def text (segments : List Segment) : String :=
  String.join (segments.map fun | .text text => text | .placeholder => "")

/-- A character as a format writes it. -/
def escapeChar (c : Char) : List Char :=
  if c = '{' ∨ c = '}' then [c, c] else [c]

/-- The format of the given segments. -/
def print (segments : List Segment) : String :=
  String.ofList (segments.flatMap fun
    | .text text => text.toList.flatMap escapeChar
    | .placeholder => ['{', '}'])

end Template

end TreeSchema
