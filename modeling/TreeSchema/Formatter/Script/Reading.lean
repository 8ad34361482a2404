import TreeSchema.Formatter.Script.Words

/-!
Reading the commands of scripts. The fuel of a function bounds how deep commands are nested; every
command in another one takes at least one character.
-/

namespace TreeSchema.Script

open Text (Octets)

/-! ### Texts after redirections -/

/-- The lines of a text up to a delimiter, what is after it, and how many lines there are. Where
lines can be joined the delimiter is not looked for after a join. -/
def documentLines (awaited : Awaited) : (fuel : Nat) → (joined : Bool) → List Char →
    List Char × List Char × Nat
  | 0, _, text => ([], text, 0)
  | _, _, [] => ([], [], 0)
  | fuel + 1, joined, c :: rest =>
    let line := (c :: rest).takeWhile (· != '\n')
    let after := (c :: rest).drop line.length
    let line := if awaited.stripTabs && !joined then line.dropWhile (· == '\t') else line
    if !joined && String.ofList line == awaited.delimiter then ([], after.drop 1, 1)
    else
      let joins := awaited.replaced && (line.reverse.takeWhile (· == '\\')).length % 2 == 1
      let (lines, left, count) := documentLines awaited fuel joins (after.drop 1)
      (line ++ after.take 1 ++ lines, left, count + 1)

section

variable (inner : (parenthesized : Bool) → Scan Command)

/-- Reads the text that a redirection asks for. -/
def readDocument (awaited : Awaited) : Scan Unit := do
  let source ← get
  let (text, left, count) := documentLines awaited (← Scan.fuel) false source.text
  let word ←
    if awaited.replaced then
      Scan.within text source.line do readDouble inner .endOfText (← wordFuel)
    else pure [.literal (String.ofList text)]
  modify fun source =>
    { source with
      text := left, line := source.line + count
      documents := source.documents ++ [(awaited.number, word)] }

/-- Reads the texts that redirections ask for, at the start of the line after them. -/
def readDocuments : Scan Unit := do
  let awaited := (← get).awaited
  modify fun source => { source with awaited := [] }
  awaited.forM (readDocument inner)

/-! ### Tokens -/

/-- Goes over line breaks; the answer is the token after them. -/
def skipNewlines : (fuel : Nat) → Token → Scan Token
  | fuel + 1, .newline => do
    readDocuments inner
    skipNewlines fuel (← readToken inner false (← Scan.fuel))
  | _, token => return token

/-- The next token, where reserved words may count and line breaks may not. -/
def nextToken (reserved skipping : Bool) : Scan Token := do
  let token ← match (← get).pushed? with
    | some token =>
      modify fun source => { source with pushed? := none }
      pure token
    | none => readToken inner false (← Scan.fuel)
  let token ← if skipping then skipNewlines inner (← Scan.fuel) token else pure token
  return if reserved then token.withReserved else token

def unexpected {α : Type} (token : Token) : Scan α :=
  Scan.fail s!"{token.shown} unexpected"

def unexpectedFor {α : Type} (token expected : Token) : Scan α :=
  Scan.fail s!"{token.shown} unexpected (expecting {expected.shown})"

/-- Goes over a token that must be the one with this text. -/
def expect (expected : Token) (reserved skipping : Bool) : Scan Unit := do
  let token ← nextToken inner reserved skipping
  if token.shown != expected.shown then unexpectedFor token expected

/-! ### Redirections -/

def standardDescriptor (operator : String) : Nat :=
  if operator.startsWith ">" then 1 else 0

def redirectKind (operator : String) : RedirectKind :=
  match operator with
  | ">" => .write
  | ">|" => .overwrite
  | ">>" => .append
  | "<>" => .readWrite
  | ">&" | "<&" => .duplicate
  | _ => .read

/-- Reads what follows the operator of a redirection. -/
def readRedirect (descriptor? : Option Nat) (operator : String) : Scan Redirect := do
  let descriptor := descriptor?.getD (standardDescriptor operator)
  if operator = "<<" || operator = "<<-" then
    match ← readToken inner true (← Scan.fuel) with
    | .word word =>
      let (delimiter, quoted) := Word.unquoted word
      modifyGet fun source =>
        let number := source.nextDocument
        (.document descriptor number,
          { source with
            nextDocument := number + 1
            awaited := source.awaited ++ [⟨number, delimiter, !quoted, operator == "<<-"⟩] })
    | token => unexpected token
  else
    match ← nextToken inner false false with
    | .word word => return .toFile descriptor (redirectKind operator) word
    | token => unexpected token

/-- Reads redirections. -/
def readRedirects : (fuel : Nat) → Scan (List Redirect)
  | 0 => return []
  | fuel + 1 => do
    match ← nextToken inner true false with
    | .redirect descriptor? operator =>
      let redirect ← readRedirect inner descriptor? operator
      return redirect :: (← readRedirects fuel)
    | token =>
      Scan.putBack token
      return []

/-! ### Words of commands -/

/-- Reads words; the token after them is put back. -/
def readWords : (fuel : Nat) → Scan (List Word)
  | 0 => return []
  | fuel + 1 => do
    match ← nextToken inner false false with
    | .word word => return word :: (← readWords fuel)
    | token =>
      Scan.putBack token
      return []

/-- The text that a token stands for as a pattern. -/
def patternOf : Token → Word
  | .word word => word
  | .reserved text => [.text text]
  | _ => []

/-- Reads the patterns of an arm after the token that is the first of them. -/
def readPatterns : (fuel : Nat) → Token → Scan (List Word)
  | 0, _ => return []
  | fuel + 1, token => do
    match ← nextToken inner false false with
    | .symbol "|" =>
      return patternOf token :: (← readPatterns fuel (← nextToken inner false false))
    | .symbol ")" => return [patternOf token]
    | other => unexpectedFor other (.symbol ")")

/-- A word that sets a variable. -/
def assignment? : Word → Option (String × Word)
  | .text text :: rest =>
    let name := text.toList.takeWhile isNameChar
    match text.toList.drop name.length with
    | '=' :: value =>
      if isName (String.ofList name) then
        some (String.ofList name,
          if value.isEmpty then rest else .text (String.ofList value) :: rest)
      else none
    | _ => none
  | _ => none

/-- The parts of a simple command that have been read. -/
structure Simple where
  assignments : List (String × Word)
  words : List Word
  redirects : List Redirect

/-- Reads the parts of a simple command. The answer tells whether it ends in a parenthesis after its
first word, as the definition of a function does. -/
def readSimple : (fuel : Nat) → Simple → Scan (Simple × Bool)
  | 0, simple => return (simple, false)
  | fuel + 1, simple => do
    match ← nextToken inner false false with
    | .word word =>
      match if simple.words.isEmpty then assignment? word else none with
      | some assignment =>
        readSimple fuel { simple with assignments := simple.assignments ++ [assignment] }
      | none => readSimple fuel { simple with words := simple.words ++ [word] }
    | .redirect descriptor? operator =>
      let redirect ← readRedirect inner descriptor? operator
      readSimple fuel { simple with redirects := simple.redirects ++ [redirect] }
    | token =>
      if token.shown = "\"(\"" && simple.words.length = 1 && simple.assignments.isEmpty &&
          simple.redirects.isEmpty then
        return (simple, true)
      else
        Scan.putBack token
        return (simple, false)

end

/-- Commands that no function can take the name of. -/
def specialBuiltins : List String :=
  ["break", ":", "continue", ".", "eval", "exec", "exit", "export", "readonly", "return", "set",
    "shift", "times", "trap", "unset", "local"]

/-! ### Commands -/

/-- Where a list of commands stands. -/
inductive ListPlace where
  /-- On a line of its own. -/
  | line
  /-- In a command that needs at least one. -/
  | compound
  | body
  deriving DecidableEq, Repr

/-- Tokens that a list of commands may end at. -/
def Token.closes : Token → Bool
  | .endOfFile => true
  | .symbol text => text == ")" || text == ";;"
  | .reserved text => ["do", "done", "elif", "else", "esac", "fi", "then", "\x7d"].contains text
  | _ => false

def Command.followedBy (before? : Option Command) (command : Command) : Command :=
  match before? with
  | none => command
  | some before => .sequence before command

/-- A command with the redirections after it. -/
def Command.withRedirects (command : Command) (line : Nat) (redirects : List Redirect) : Command :=
  match command with
  | .subshell line body _ => .subshell line body redirects
  | command => if redirects.isEmpty then command else .redirected line command redirects

mutual

/-- Reads the commands in a word, up to a closing parenthesis or to the end. -/
def readNested : (fuel : Nat) → (parenthesized : Bool) → Scan Command
  | 0, _ => return .nothing
  | fuel + 1, parenthesized => do
    let outer := (← get).awaited
    let command ← readList fuel .body none
    if parenthesized then expect (readNested fuel) (.symbol ")") false false
    modify fun source => { source with awaited := outer }
    return command

/-- Reads a list of commands after those that have been read. -/
def readList : (fuel : Nat) → ListPlace → Option Command → Scan Command
  | 0, _, _ => return .nothing
  | fuel + 1, place, before? => do
    let token ← nextToken (readNested fuel) true (place ≠ .line)
    match token with
    | .newline =>
      readDocuments (readNested fuel)
      return before?.getD .nothing
    | .endOfFile =>
      readDocuments (readNested fuel)
      Scan.putBack token
      return before?.getD .nothing
    | _ =>
      Scan.putBack token
      if token.closes && (place = .body || place = .compound && before?.isSome) then
        return before?.getD .nothing
      let command ← readAndOr fuel
      let token ← nextToken (readNested fuel) false false
      match token with
      | .endOfFile =>
        readDocuments (readNested fuel)
        Scan.putBack token
        return .followedBy before? command
      | .newline =>
        Scan.putBack token
        readList fuel place (some (.followedBy before? command))
      | .symbol ";" => readList fuel place (some (.followedBy before? command))
      | .symbol "&" => readList fuel place (some (.followedBy before? (.background command)))
      | token =>
        if place = .line then unexpected token
        Scan.putBack token
        return .followedBy before? command

def readAndOr : (fuel : Nat) → Scan Command
  | 0 => return .nothing
  | fuel + 1 => do
    let first ← readPipeline fuel false
    readAndOrRest fuel first

def readAndOrRest : (fuel : Nat) → Command → Scan Command
  | 0, first => return first
  | fuel + 1, first => do
    match ← nextToken (readNested fuel) false false with
    | .symbol "&&" =>
      let second ← readPipeline fuel true
      readAndOrRest fuel (.conjunction first second)
    | .symbol "||" =>
      let second ← readPipeline fuel true
      readAndOrRest fuel (.disjunction first second)
    | token =>
      Scan.putBack token
      return first

/-- Reads a pipeline, where it continues a list perhaps on another line. -/
def readPipeline : (fuel : Nat) → (continued : Bool) → Scan Command
  | 0, _ => return .nothing
  | fuel + 1, continued => do
    match ← nextToken (readNested fuel) continued continued with
    | .reserved "!" =>
      let first ← readCommand fuel true false
      return .negation (← readPiped fuel first)
    | token =>
      Scan.putBack token
      let first ← readCommand fuel false false
      readPiped fuel first

/-- Reads what a command is piped to. -/
def readPiped : (fuel : Nat) → Command → Scan Command
  | 0, first => return first
  | fuel + 1, first => do
    let rest ← readPipes fuel
    return if rest.isEmpty then first else .pipeline (first :: rest)

def readPipes : (fuel : Nat) → Scan (List Command)
  | 0 => return []
  | fuel + 1 => do
    match ← nextToken (readNested fuel) false false with
    | .symbol "|" =>
      let command ← readCommand fuel true true
      return command :: (← readPipes fuel)
    | token =>
      Scan.putBack token
      return []

/-- Reads a command that is no list and no pipeline. -/
def readCommand : (fuel : Nat) → (reserved skipping : Bool) → Scan Command
  | 0, _, _ => return .nothing
  | fuel + 1, reserved, skipping => do
    let line := (← get).line
    let token ← nextToken (readNested fuel) reserved skipping
    match token with
    | .word _ | .redirect .. =>
      Scan.putBack token
      readSimpleCommand fuel
    | _ =>
      let command ← readCompound fuel line token
      return command.withRedirects line (← readRedirects (readNested fuel) (← Scan.fuel))

/-- Reads a simple command or the definition of a function. -/
def readSimpleCommand : (fuel : Nat) → Scan Command
  | 0 => return .nothing
  | fuel + 1 => do
    let line := (← get).line
    let (simple, defines) ← readSimple (readNested fuel) (← Scan.fuel) ⟨[], [], []⟩
    if defines then
      expect (readNested fuel) (.symbol ")") false false
      let name := (simple.words.head?.bind Word.plain?).getD ""
      if !isName name || specialBuiltins.contains name then
        Scan.fail "Bad function name"
      let body ← readCommand fuel true true
      return .definition line name body
    else return .simple line simple.assignments simple.words simple.redirects

/-- Reads a compound command after the token that it starts with. -/
def readCompound : (fuel : Nat) → (line : Nat) → Token → Scan Command
  | 0, _, _ => return .nothing
  | fuel + 1, line, token => do
    let inner := readNested fuel
    match token with
    | .reserved "if" =>
      let command ← readBranches fuel
      expect inner (.reserved "fi") false false
      return command
    | .reserved "while" => readLoop fuel true
    | .reserved "until" => readLoop fuel false
    | .reserved "for" => readEach fuel line
    | .reserved "case" =>
      match ← nextToken inner false false with
      | .word subject =>
        expect inner (.reserved "in") true true
        return .choice line subject (← readArms fuel)
      | token => unexpectedFor token (.word [])
    | .symbol "(" =>
      let body ← readList fuel .compound none
      expect inner (.symbol ")") false false
      return .subshell line body []
    | .reserved "\x7b" =>
      let body ← readList fuel .compound none
      expect inner (.reserved "\x7d") false false
      return body
    | token => unexpected token

/-- Reads a condition, what follows it, and what is done otherwise. -/
def readBranches : (fuel : Nat) → Scan Command
  | 0 => return .nothing
  | fuel + 1 => do
    let inner := readNested fuel
    let test ← readList fuel .compound none
    expect inner (.reserved "then") false false
    let body ← readList fuel .compound none
    match ← nextToken inner false false with
    | .reserved "elif" => return .conditional test body (← readBranches fuel)
    | .reserved "else" => return .conditional test body (← readList fuel .compound none)
    | token =>
      Scan.putBack token
      return .conditional test body .nothing

def readLoop : (fuel : Nat) → (success : Bool) → Scan Command
  | 0, _ => return .nothing
  | fuel + 1, success => do
    let inner := readNested fuel
    let test ← readList fuel .compound none
    expect inner (.reserved "do") false false
    let body ← readList fuel .compound none
    expect inner (.reserved "done") false false
    return .loop success test body

/-- Reads a loop over words. Without words it is over the parameters. -/
def readEach : (fuel : Nat) → (line : Nat) → Scan Command
  | 0, _ => return .nothing
  | fuel + 1, line => do
    let inner := readNested fuel
    let name ← match ← nextToken inner false false with
      | .word word => pure ((Word.plain? word).getD "")
      | _ => pure ""
    if !isName name then Scan.fail "Bad for loop variable"
    let words ← match ← nextToken inner true true with
      | .reserved "in" =>
        let words ← readWords inner (← Scan.fuel)
        match ← nextToken inner false false with
        | .newline => readDocuments inner
        | .symbol ";" => pure ()
        | token => unexpected token
        pure words
      | .symbol ";" => pure [[.quoted [.parameter "@"]]]
      | token =>
        Scan.putBack token
        pure [[.quoted [.parameter "@"]]]
    expect inner (.reserved "do") true true
    let body ← readList fuel .compound none
    expect inner (.reserved "done") false false
    return .each line name words body

def readArms : (fuel : Nat) → Scan (List Arm)
  | 0 => return []
  | fuel + 1 => do
    let inner := readNested fuel
    match ← nextToken inner true true with
    | .reserved "esac" => return []
    | token =>
      let first ← match token with
        | .symbol "(" => nextToken inner false false
        | token => pure token
      let patterns ← readPatterns inner (← Scan.fuel) first
      let body ← readList fuel .body none
      match ← nextToken inner true true with
      | .reserved "esac" => return [.mk patterns body]
      | .symbol ";;" => return .mk patterns body :: (← readArms fuel)
      | token => unexpectedFor token (.symbol ";;")

end

/-- Reads commands line by line until there are no more or something is wrong. -/
def readLines : (fuel : Nat) → Source → List Command × Option SyntaxFault × Source
  | 0, source => ([], none, source)
  | fuel + 1, source =>
    let depth := 16 * source.text.length + 64
    let line : Scan (Option Command) := do
      match ← nextToken (readNested depth) true false with
      | .endOfFile => return none
      | token =>
        Scan.putBack token
        return some (← readList depth .line none)
    match line.run source with
    | .error fault => ([], some fault, source)
    | .ok (none, source) => ([], none, source)
    | .ok (some command, source) =>
      let (commands, fault?, source) := readLines fuel source
      (command :: commands, fault?, source)

/-- Reads a script. The texts in it are numbered from `firstDocument`. -/
def Contents.read (firstDocument : Nat) (text : Octets) : Contents :=
  let source : Source := ⟨text.toList, 1, none, [], [], firstDocument⟩
  let (commands, fault?, source) := readLines (text.length + 1) source
  let numbers := (List.range (source.nextDocument - firstDocument)).map (· + firstDocument)
  ⟨commands, fault?, numbers.map fun number => (source.documents.lookup number).getD []⟩

end TreeSchema.Script
