import TreeSchema.Proofs.Render.Meaning
import TreeSchema.Source.OfSchema

/-!
Running the body of a renderer, as the generated language has it. Nothing is said of bodies that do
not fit the record: reading a field that is not there, asking a node for its lexeme, or an item
where no name is bound.
-/

namespace TreeSchema.Source

/-! ### Formatted writes -/

/-- The pieces of a format string. Only empty braces take an argument. -/
def formatPieces? : List Char → Option (List Template.Piece)
  | [] => some []
  | [c] => if c = '{' ∨ c = '}' then none else some [.char c]
  | c :: d :: rest =>
    if c = '{' then
      if d = '{' then (formatPieces? rest).map (.char '{' :: ·)
      else if d = '}' then (formatPieces? rest).map (.placeholder :: ·)
      else none
    else if c = '}' then
      if d = '}' then (formatPieces? rest).map (.char '}' :: ·) else none
    else (formatPieces? (d :: rest)).map (.char c :: ·)

/-- Writes the pieces with one argument for each place, none being left. -/
def writePieces? : List Template.Piece → List String → Option (List Char)
  | [], [] => some []
  | .char c :: rest, args => (writePieces? rest args).map (c :: ·)
  | .placeholder :: rest, arg :: args => (writePieces? rest args).map (arg.toList ++ ·)
  | [], _ :: _ | .placeholder :: _, [] => none

/-! ### Values -/

variable (values : Values)

/-- What a name in the body stands for: the item is the one that is bound by that name, if any. -/
def Place.item? (bound? : Option Item) : Place → Option Item
  | .field name =>
    match values.lookup name with
    | some (.one held) => some held
    | _ => none
  | .item => bound?

/-- The answer of the method of tokens. -/
def lexeme? : Item → Option String
  | .token lexeme => some lexeme
  | .display _ => none

def display? : Item → Option String
  | .token _ => none
  | .display text => some text

def Operand.run? : Operand → Option String
  | .value name => (Place.item? values none (.field name)).bind display?
  | .lexeme name => (Place.item? values none (.field name)).bind lexeme?

/-! ### Statements -/

mutual

/-- What a statement writes, `bound?` being what the name of the item stands for around it. A block
that binds the name hides what is bound outside, one that does not leaves it visible. -/
def Statement.run? (bound? : Option Item) : Statement → Option String
  | .touch => some ""
  | .writeText text => some text
  | .writeLexeme place => (place.item? values bound?).bind lexeme?
  | .display place => (place.item? values bound?).bind display?
  | .forEach binds field body =>
    match values.lookup field with
    | some (.sequence elements) =>
      (elements.mapM fun element =>
        runAll? (if binds then some element else bound?) body).map String.join
    | _ => none
  | .ifPresent binds field body =>
    match values.lookup field with
    | some (.optional none) => some ""
    | some (.optional (some item)) => runAll? (if binds then some item else bound?) body
    | _ => none

def runAll? (bound? : Option Item) : List Statement → Option String
  | [] => some ""
  | statement :: rest => do
    let first ← statement.run? bound?
    let others ← runAll? bound? rest
    return first ++ others

end

/-- What the body of a renderer writes. -/
def Body.run? : Body → Option String
  | .text shown => some shown
  | .format template operands => do
    let pieces ← formatPieces? template.toList
    let args ← operands.mapM (·.run? values)
    (writePieces? pieces args).map String.ofList
  | .block statements => runAll? values none statements

end TreeSchema.Source
