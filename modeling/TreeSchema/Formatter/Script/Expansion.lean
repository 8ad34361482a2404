import TreeSchema.Formatter.Script.Shell
import TreeSchema.Store.Glob

/-!
What the words of a command stand for. The parts of a word are replaced first; what is replaced is
split where it is not quoted; and the words that are patterns then stand for the files they match.
Running the commands in a word is left to a parameter.
-/

namespace TreeSchema.Script

open Text (Octets Glyph Wildcard.isPattern Wildcard.ofGlyphs Wildcard.trim)

/-! ### Pieces -/

/-- A piece of a word whose parts have been replaced. -/
inductive Piece where
  /-- A character; one that is quoted stands for itself, and words are split only where that is
  allowed. -/
  | char (c : Char) (quoted splits : Bool)
  /-- Quotes, which make a word even if there is nothing in them. -/
  | quotes
  /-- The end of a word. -/
  | cut
  deriving DecidableEq, Repr

def piecesOf (text : Octets) (quoted splits : Bool) : List Piece :=
  text.toList.map fun c => .char c quoted splits

/-- The pieces of texts that are words of their own. -/
def separate (quoted : Bool) : List Octets → List Piece
  | [] => []
  | [text] => pieces text
  | text :: rest => pieces text ++ .cut :: separate quoted rest
where
  pieces (text : Octets) : List Piece :=
    (if quoted then [Piece.quotes] else []) ++ piecesOf text quoted (!quoted)

/-- The text of pieces that make one word. -/
def joinPieces (pieces : List Piece) : Octets :=
  String.ofList (pieces.filterMap fun piece =>
    match piece with
    | .char c _ _ => some c
    | .quotes => none
    | .cut => some ' ')

/-- The characters of pieces that make one pattern. -/
def glyphsOf (pieces : List Piece) : List Glyph :=
  pieces.filterMap fun piece =>
    match piece with
    | .char c quoted _ => some ⟨c, quoted⟩
    | .quotes => none
    | .cut => some ⟨' ', true⟩

/-- Words that are complete, and the one that is being put together. -/
structure Fields where
  complete : List (List Glyph)
  current? : Option (List Glyph)
  /-- Whether blanks have just ended a word, so that one more sign between words belongs to them. -/
  afterBlanks : Bool

namespace Fields

def close (fields : Fields) (afterBlanks : Bool) : Fields :=
  ⟨fields.complete ++ fields.current?.toList, none, afterBlanks⟩

def add (fields : Fields) (glyphs : List Glyph) : Fields :=
  ⟨fields.complete, some (fields.current?.getD [] ++ glyphs), false⟩

/-- Adds a piece, where words are split at separators. Blanks around a separator belong to it. -/
def addPiece (separators : List Char) (fields : Fields) : Piece → Fields
  | .quotes => fields.add []
  | .cut => fields.close false
  | .char c quoted splits =>
    if splits && !quoted && separators.contains c then
      if [' ', '\t', '\n'].contains c then
        if fields.current?.isSome then fields.close true else fields
      else if fields.afterBlanks && fields.current?.isNone then { fields with afterBlanks := false }
      else (fields.add []).close false
    else fields.add [⟨c, quoted⟩]

/-- The words that pieces make. -/
def ofPieces (separators : List Char) (pieces : List Piece) : List (List Glyph) :=
  (pieces.foldl (addPiece separators) ⟨[], none, false⟩ |>.close false).complete

end Fields

/-! ### Parameters -/

/-- The number of the process that a script runs in. -/
def shellNumber : Nat := 4242

/-- The value of a parameter, if it has one. -/
def Shell.value? (shell : Shell) (name : String) : Option Octets :=
  match name with
  | "?" => some (toString shell.status)
  | "#" => some (toString shell.parameters.length)
  | "$" => some (toString shellNumber)
  | "!" => shell.jobs.head?.map fun job => toString job.1
  | "-" => some (String.ofList shell.options.reverse)
  | "@" => some (" ".intercalate shell.parameters)
  | "*" =>
    some ((String.ofList (shell.separators.take 1)).intercalate shell.parameters)
  | name =>
    match name.toNat? with
    | some 0 => some shell.name
    | some position => shell.parameters[position - 1]?
    | none => shell.bound? name

/-- The pieces of a parameter's value. -/
def Shell.pieces (shell : Shell) (name : String) (quoted : Bool) : List Piece :=
  if name = "@" || name = "*" && !quoted then separate quoted shell.parameters
  else piecesOf ((shell.value? name).getD "") quoted (!quoted)

/-- A word with the home of a user in the place of a tilde and the user's name at its start. -/
def Shell.withHome (shell : Shell) : Word → Word
  | [] => []
  | part :: rest =>
    match part with
    | .text text =>
      match text.toList with
      | '~' :: more =>
        let user := more.takeWhile (· != '/')
        let left := more.drop user.length
        let home? := match String.ofList user with
          | "" => shell.bound? "HOME"
          | "root" => some "/root"
          | _ => none
        match home? with
        | some home =>
          if left.isEmpty && !rest.isEmpty then part :: rest
          else .literal home :: .text (String.ofList left) :: rest
        | none => part :: rest
      | _ => part :: rest
    | _ => part :: rest

/-- Whether a parameter has a value, which may have to be more than nothing. -/
def Shell.hasValue (shell : Shell) (name : String) (orEmpty : Bool) : Bool :=
  match shell.value? name with
  | some value =>
    if name = "@" || name = "*" then !shell.parameters.isEmpty && !(orEmpty && value.isEmpty)
    else !(orEmpty && value.isEmpty)
  | none => false

section

-- Runs a command; the answer is what it writes.
variable (outputOf : Command → Run Octets)

/-- Stops if a parameter must have a value and has none. -/
def demandValue (name : String) : Run Unit := do
  let shell ← get
  if shell.hasOption 'u' && (shell.value? name).isNone then
    Run.abort s!"{name}: parameter not set"

/-- The value of an expression, after which its variables are set. -/
def evaluate (expression : Octets) : Run Octets := do
  let shell ← get
  match Arithmetic.evaluate ⟨shell.bound?, shell.isReadOnly⟩ expression with
  | .error fault => Run.abort (fault.message expression)
  | .ok (value, assigned) =>
    assigned.reverse.forM fun (name, value) => modify fun shell => shell.setVariable name value
    return toString value.toInt

/-- The output of a command as a word has it: without line breaks at its end. -/
def trimOutput (output : Octets) : Octets :=
  let characters := output.toList.filter (· != '\x00')
  String.ofList (characters.reverse.dropWhile (· == '\n')).reverse

mutual

/-- The pieces of a part of a word. Text that stands in the script is split only if it `splits`. -/
def expandPart (quoted splits : Bool) : WordPart → Run (List Piece)
  | .text text => return piecesOf text quoted (splits && !quoted)
  | .literal text => return .quotes :: piecesOf text true false
  | .quoted parts => do
    let pieces ← expandParts true false parts
    let empty := (← get).parameters.isEmpty
    match parts with
    | [.parameter "@"] => return if empty then [] else pieces
    | _ => return .quotes :: pieces
  | .parameter name => do
    demandValue name
    return (← get).pieces name quoted
  | .length name => do
    demandValue name
    let length := (((← get).value? name).getD "").length
    return piecesOf (toString length) quoted (!quoted)
  | .substitute name orEmpty use operand => do
    let present := (← get).hasValue name orEmpty
    match use with
    | .alternative => if present then expandParts quoted (!quoted) operand else return []
    | .default =>
      if present then return (← get).pieces name quoted
      else expandParts quoted (!quoted) operand
    | .assign =>
      if present then return (← get).pieces name quoted
      else
        let value := joinPieces (← expandParts quoted false operand)
        if !isName name then Run.abort s!"{name}: bad variable name"
        Run.setVariable name value
        return piecesOf value quoted (!quoted)
    | .demand =>
      if present then return (← get).pieces name quoted
      else
        let text := joinPieces (← expandParts quoted false operand)
        let text := if operand.isEmpty then
            if orEmpty then "parameter not set or null" else "parameter not set"
          else text
        Run.abort s!"{name}: {text}"
  | .trimmed name trim pattern => do
    demandValue name
    let glyphs := glyphsOf (← expandParts false false pattern)
    let value := (((← get).value? name).getD "").toList
    let value := Wildcard.trim (Wildcard.ofGlyphs glyphs) trim.left trim.longest value
    return piecesOf (String.ofList value) quoted (!quoted)
  | .output command => do
    return piecesOf (trimOutput (← outputOf command)) quoted (!quoted)
  | .arithmetic expression => do
    let text := joinPieces (← expandParts true false expression)
    return piecesOf (← evaluate text) quoted (!quoted)
  | .malformed => Run.abort "Bad substitution"

def expandParts (quoted splits : Bool) : List WordPart → Run (List Piece)
  | [] => return []
  | part :: rest => do
    let pieces ← expandPart quoted splits part
    return pieces ++ (← expandParts quoted splits rest)

end

/-- The text that a word stands for where it is not split. -/
def expandText (word : Word) : Run Octets := do
  return joinPieces (← expandParts outputOf false false ((← get).withHome word))

/-- The pattern that a word stands for. -/
def expandPattern (word : Word) : Run (List Glyph) := do
  return glyphsOf (← expandParts outputOf false false ((← get).withHome word))

/-- The text after a redirection. -/
def expandDocument (word : Word) : Run Octets := do
  return joinPieces (← expandParts outputOf true false word)

/-- The words that a word stands for. -/
def expandWord (word : Word) : Run (List Octets) := do
  let pieces ← expandParts outputOf false false ((← get).withHome word)
  let shell ← get
  return (Fields.ofPieces shell.separators pieces).flatMap fun field =>
    let paths :=
      if Wildcard.isPattern field && !shell.hasOption 'f' then shell.store.glob field else []
    if paths.isEmpty then [glyphText field] else paths

/-- The words that words stand for. -/
def expandWords : List Word → Run (List Octets)
  | [] => return []
  | word :: rest => do
    let words ← expandWord outputOf word
    return words ++ (← expandWords rest)

end

end TreeSchema.Script
