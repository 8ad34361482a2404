import TreeSchema.Proofs.Render.Mentions

/-!
Reading the body of a renderer from its lines. The reader knows the language, and what the accessor
of tokens is called, but not what the lines were written for.
-/

namespace TreeSchema

open Source

namespace Source

/-! ### Reading code -/

/-- What stands between a start and an end of the code. -/
def between? (start tail : String) (code : List Char) : Option (List Char) :=
  (code.dropPrefix? start.toList).bind (·.dropSuffix? tail.toList)

def name? (code : List Char) : Option String :=
  if code.all inName then some (String.ofList code) else none

def readPlace? (code : List Char) : Option Place :=
  if code = "item".toList then some .item
  else (between? "self." "" code).bind fun inner => (name? inner).map .field

/-- A place where a reference is taken. An item is one already. -/
def readReference? (code : List Char) : Option Place :=
  if code = "item".toList then some .item
  else (between? "&self." "" code).bind fun inner => (name? inner).map .field

/-- The argument of a write: a literal, or the answer of the accessor. -/
def readWritten? (lexeme : String) (code : List Char) : Option Statement :=
  if code.head? = some '"' then (Text.literalText? (String.ofList code)).map .writeText
  else ((between? "" ("." ++ lexeme ++ "()") code).bind readPlace?).map .writeLexeme

/-- What a line of a block does: it is a statement, or it opens or closes a block. -/
inductive BodyLine where
  | statement (statement : Statement)
  | opens (block : List Statement → Statement)
  | closes

def readLine? (lexeme : String) (code : List Char) : Option BodyLine :=
  if code = "let _ = f;".toList then some (.statement .touch)
  else if code = "\x7d".toList then some .closes
  else if let some argument := between? "f.write_str(" ")?;" code then
    (readWritten? lexeme argument).map .statement
  else if let some argument := between? "fmt::Display::fmt(" ", f)?;" code then
    (readReference? argument).map fun place => .statement (.display place)
  else if let some field := between? "for item in self." ".iter() \x7b" code then
    (name? field).map fun name => .opens (.forEach true name)
  else if let some field := between? "for _ in self." ".iter() \x7b" code then
    (name? field).map fun name => .opens (.forEach false name)
  else if let some field := between? "if let Some(item) = &self." " \x7b" code then
    (name? field).map fun name => .opens (.ifPresent true name)
  else if let some field := between? "if self." ".is_some() \x7b" code then
    (name? field).map fun name => .opens (.ifPresent false name)
  else none

def afterIndent (line : String) : List Char :=
  line.toList.dropWhile (· == ' ')

/-- Reads lines inside of blocks that are still open. Of each of these blocks it is known how it was
opened and which statements come before it, the innermost block first. -/
def readStatements? (lexeme : String)
    (around : List ((List Statement → Statement) × List Statement)) (done : List Statement) :
    List String → Option (List Statement)
  | [] => if around.isEmpty then some done else none
  | line :: rest =>
    match readLine? lexeme (afterIndent line), around with
    | some (.statement statement), _ => readStatements? lexeme around (done ++ [statement]) rest
    | some (.opens block), _ => readStatements? lexeme ((block, done) :: around) [] rest
    | some .closes, (block, before) :: outer =>
      readStatements? lexeme outer (before ++ [block done]) rest
    | some .closes, [] | none, _ => none

/-- Reads the arguments of a formatted write, one for each of its places. -/
def readOperands? (lexeme : String) : Nat → List Char → Option (List Operand)
  | 0, code => if code = [')'] then some [] else none
  | count + 1, code => do
    let argument ← code.dropPrefix? ", self.".toList
    let name := String.ofList (argument.takeWhile inName)
    let after := argument.dropWhile inName
    match after.dropPrefix? ("." ++ lexeme ++ "()").toList with
    | some rest => (readOperands? lexeme count rest).map (.lexeme name :: ·)
    | none => (readOperands? lexeme count after).map (.value name :: ·)

/-- Reads a body that is a single call. -/
def readCall? (lexeme : String) (code : List Char) : Option Body :=
  if let some argument := between? "f.write_str(" ")" code then
    (Text.literalText? (String.ofList argument)).map .text
  else do
    let call ← code.dropPrefix? "write!(f, ".toList
    let literal ← Text.leadingLiteral? call
    let format ← Text.literalText? literal
    let pieces ← formatPieces? format.toList
    let operands ←
      readOperands? lexeme (pieces.count .placeholder) (call.drop literal.toList.length)
    return .format format operands

/-- Reads a body by its last line: the end of a block, or the only call. -/
def readBody? (lexeme : String) (lines : List String) : Option Body := do
  let last ← lines.getLast?
  if afterIndent last = "Ok(())".toList then
    (readStatements? lexeme [] [] lines.dropLast).map .block
  else if lines.length = 1 then readCall? lexeme (afterIndent last)
  else none

/-! ### What can be read -/

def PlainName (name : String) : Prop :=
  ∀ c ∈ name.toList, inName c = true

instance : DecidablePred PlainName := fun name =>
  List.decidableBAll (fun c => inName c = true) name.toList

def Place.Legible : Place → Prop
  | field name => PlainName name
  | item => True

def Operand.field : Operand → String
  | value name | lexeme name => name

mutual

def Statement.Legible : Statement → Prop
  | .touch | .writeText _ => True
  | .writeLexeme place | .display place => place.Legible
  | .forEach _ field body | .ifPresent _ field body => PlainName field ∧ AllLegible body

def AllLegible : List Statement → Prop
  | [] => True
  | statement :: rest => statement.Legible ∧ AllLegible rest

end

/-- All fields are names, and a format has arguments, one for each of its places. -/
def Body.Legible : Body → Prop
  | text _ => True
  | format template operands => operands ≠ [] ∧ (∀ operand ∈ operands, PlainName operand.field) ∧
      ∃ pieces, formatPieces? template.toList = some pieces ∧
        pieces.count .placeholder = operands.length
  | block statements => AllLegible statements

/-! ### Names and places -/

variable {lexeme name line : String} {depth : Nat} {place : Place} {rest : List Char}
  {around : List ((List Statement → Statement) × List Statement)} {done : List Statement}
  {statement : Statement} {lines : List String}

theorem between?_append (start tail : String) (inner : List Char) :
    between? start tail (start.toList ++ (inner ++ tail.toList)) = some inner := by
  rw [between?, List.dropPrefix?_append_of_beq _ (beq_self_eq_true _), Option.bind_some]
  exact List.dropSuffix?_eq_some_iff.mpr ⟨_, rfl, beq_self_eq_true _⟩

theorem between?_eq_some_iff {start tail : String} {inner code : List Char} :
    between? start tail code = some inner ↔ code = start.toList ++ (inner ++ tail.toList) := by
  constructor
  · intro found
    obtain ⟨after, starts, closes⟩ := Option.bind_eq_some_iff.mp found
    obtain ⟨front, rfl, same⟩ := List.dropPrefix?_eq_some_iff.mp starts
    obtain rfl := eq_of_beq same
    obtain ⟨back, rfl, same⟩ := List.dropSuffix?_eq_some_iff.mp closes
    rw [eq_of_beq same]
  · rintro rfl
    exact between?_append start tail inner

theorem name?_eq (isName : PlainName name) : name? name.toList = some name := by
  rw [name?, if_pos (List.all_eq_true.mpr isName), String.ofList_toList]

theorem readPlace?_text (legible : place.Legible) : readPlace? place.text.toList = some place := by
  cases place with
  | item => rfl
  | field name =>
    have found := between?_append "self." "" name.toList
    have other : "self.".toList ++ (name.toList ++ "".toList) ≠ "item".toList := by
      simp
    have code : (Place.field name).text.toList = "self.".toList ++ (name.toList ++ "".toList) := by
      simp [Place.text]
    rw [code, readPlace?, if_neg other, found, Option.bind_some, name?_eq legible, Option.map_some]

theorem readReference?_reference (legible : place.Legible) :
    readReference? place.reference.toList = some place := by
  cases place with
  | item => rfl
  | field name =>
    have found := between?_append "&self." "" name.toList
    have other : "&self.".toList ++ (name.toList ++ "".toList) ≠ "item".toList := by
      simp
    have code : (Place.field name).reference.toList =
        "&self.".toList ++ (name.toList ++ "".toList) := by
      simp [Place.reference]
    rw [code, readReference?, if_neg other, found, Option.bind_some, name?_eq legible,
      Option.map_some]

theorem readWritten?_quoted (text : String) :
    readWritten? lexeme (Text.quoted text).toList = some (.writeText text) := by
  have opening : (Text.quoted text).toList.head? = some '"' := by
    rw [Text.toList_quoted, List.head?_cons]
  rw [readWritten?, if_pos opening, String.ofList_toList, Text.literalText?_quoted, Option.map_some]

theorem readWritten?_lexeme (legible : place.Legible) :
    readWritten? lexeme (place.text ++ "." ++ lexeme ++ "()").toList =
      some (.writeLexeme place) := by
  have code : (place.text ++ "." ++ lexeme ++ "()").toList =
      "".toList ++ (place.text.toList ++ ("." ++ lexeme ++ "()").toList) := by
    simp
  have opening : (place.text ++ "." ++ lexeme ++ "()").toList.head? ≠ some '"' := by
    cases place <;> simp [Place.text]
  rw [readWritten?, if_neg opening, code, between?_append, Option.bind_some,
    readPlace?_text legible, Option.map_some]

/-! ### Lines of blocks -/

theorem readLine?_writeStr (argument : List Char) :
    readLine? lexeme ("f.write_str(".toList ++ (argument ++ ")?;".toList)) =
      (readWritten? lexeme argument).map .statement := by
  have found := between?_append "f.write_str(" ")?;" argument
  rw [readLine?, if_neg (by simp), if_neg (by simp), found]

theorem readLine?_display (argument : List Char) :
    readLine? lexeme ("fmt::Display::fmt(".toList ++ (argument ++ ", f)?;".toList)) =
      (readReference? argument).map fun place => .statement (.display place) := by
  have found := between?_append "fmt::Display::fmt(" ", f)?;" argument
  have write : between? "f.write_str(" ")?;"
      ("fmt::Display::fmt(".toList ++ (argument ++ ", f)?;".toList)) = none := rfl
  rw [readLine?, if_neg (by simp), if_neg (by simp), write, found]

/-- A line with a name between a start and an end opens what they say. -/
theorem readLine?_opens {start tail : String} {block : String → List Statement → Statement}
    (isName : PlainName name)
    (known : readLine? lexeme (start.toList ++ (name.toList ++ tail.toList)) =
      (name? name.toList).map fun name => .opens (block name)) :
    readLine? lexeme (start ++ name ++ tail).toList = some (.opens (block name)) := by
  rw [String.append_assoc, String.toList_append, String.toList_append, known, name?_eq isName,
    Option.map_some]

theorem readLine?_for (binds : Bool) (isName : PlainName name) :
    readLine? lexeme ("for " ++ (if binds then "item" else "_") ++ " in self." ++ name ++
      ".iter() \x7b").toList = some (.opens (.forEach binds name)) := by
  cases binds with
  | true =>
    have start : "for " ++ (if true then "item" else "_") ++ " in self." =
        "for item in self." := rfl
    have found := between?_append "for item in self." ".iter() \x7b" name.toList
    rw [start]
    refine readLine?_opens isName ?_
    rw [readLine?, if_neg (by simp), if_neg (by simp), found]
    rfl
  | false =>
    have start : "for " ++ (if false then "item" else "_") ++ " in self." =
        "for _ in self." := rfl
    have found := between?_append "for _ in self." ".iter() \x7b" name.toList
    rw [start]
    refine readLine?_opens isName ?_
    rw [readLine?, if_neg (by simp), if_neg (by simp), found]
    rfl

theorem readLine?_if (binds : Bool) (isName : PlainName name) :
    readLine? lexeme (if binds then "if let Some(item) = &self." ++ name ++ " \x7b"
      else "if self." ++ name ++ ".is_some() \x7b").toList =
        some (.opens (.ifPresent binds name)) := by
  cases binds with
  | true =>
    have found := between?_append "if let Some(item) = &self." " \x7b" name.toList
    refine readLine?_opens isName ?_
    rw [readLine?, if_neg (by simp), if_neg (by simp), found]
    rfl
  | false =>
    have found := between?_append "if self." ".is_some() \x7b" name.toList
    refine readLine?_opens isName ?_
    rw [readLine?, if_neg (by simp), if_neg (by simp), found]
    rfl

/-! ### Statements -/

theorem afterIndent_indented (starts : line.toList.head? ≠ some ' ') :
    afterIndent (indented depth line) = line.toList :=
  dropWhile_indented_of_head starts

theorem readStatements?_statement (starts : line.toList.head? ≠ some ' ')
    (known : readLine? lexeme line.toList = some (.statement statement)) (others : List String) :
    readStatements? lexeme around done (indented depth line :: others) =
      readStatements? lexeme around (done ++ [statement]) others := by
  rw [readStatements?.eq_def]
  simp only [afterIndent_indented starts, known]

/-- The lines of a block are read as the block with the statements inside it. -/
theorem readStatements?_block {block : List Statement → Statement} {body : List Statement}
    (starts : line.toList.head? ≠ some ' ')
    (known : readLine? lexeme line.toList = some (.opens block)) (others : List String)
    (inside : ∀ around others, readStatements? lexeme around []
      (statementLines lexeme (depth + 1) body ++ others) =
        readStatements? lexeme around body others) :
    readStatements? lexeme around done (indented depth line ::
      statementLines lexeme (depth + 1) body ++ [indented depth "\x7d"] ++ others) =
        readStatements? lexeme around (done ++ [block body]) others := by
  have closing : readLine? lexeme (afterIndent (indented depth "\x7d")) = some .closes := by
    rw [afterIndent_indented (by decide)]
    rfl
  rw [List.cons_append, List.cons_append, readStatements?.eq_def]
  simp only [afterIndent_indented starts, known]
  rw [List.append_assoc, inside, List.singleton_append, readStatements?.eq_def]
  simp only [closing]

mutual

/-- A statement is read back from its lines, whatever comes before and after them. -/
theorem readStatements?_lines (depth : Nat)
    (around : List ((List Statement → Statement) × List Statement)) (done : List Statement)
    (others : List String) (statement : Statement) (legible : statement.Legible) :
    readStatements? lexeme around done (statement.lines lexeme depth ++ others) =
      readStatements? lexeme around (done ++ [statement]) others := by
  match statement with
  | .touch =>
    have known : readLine? lexeme "let _ = f;".toList = some (.statement .touch) := rfl
    exact readStatements?_statement (by decide) known others
  | .writeText text =>
    have known : readLine? lexeme ("f.write_str(" ++ Text.quoted text ++ ")?;").toList =
        some (.statement (.writeText text)) := by
      rw [String.append_assoc, String.toList_append, String.toList_append, readLine?_writeStr,
        readWritten?_quoted, Option.map_some]
    exact readStatements?_statement (by simp) known others
  | .writeLexeme place =>
    have known : readLine? lexeme ("f.write_str(" ++ place.text ++ "." ++ lexeme ++
        "())?;").toList = some (.statement (.writeLexeme place)) := by
      have code : ("f.write_str(" ++ place.text ++ "." ++ lexeme ++ "())?;").toList =
          "f.write_str(".toList ++ ((place.text ++ "." ++ lexeme ++ "()").toList ++
            ")?;".toList) := by
        simp
      rw [code, readLine?_writeStr, readWritten?_lexeme legible, Option.map_some]
    exact readStatements?_statement (by simp) known others
  | .display place =>
    have known : readLine? lexeme ("fmt::Display::fmt(" ++ place.reference ++ ", f)?;").toList =
        some (.statement (.display place)) := by
      rw [String.append_assoc, String.toList_append, String.toList_append, readLine?_display,
        readReference?_reference legible, Option.map_some]
    exact readStatements?_statement (by simp) known others
  | .forEach binds field body =>
    obtain ⟨isName, inside⟩ := legible
    exact readStatements?_block (by simp) (readLine?_for binds isName) others
      fun around others => readStatements?_statementLines (depth + 1) around [] others body inside
  | .ifPresent binds field body =>
    obtain ⟨isName, inside⟩ := legible
    exact readStatements?_block (by split <;> simp) (readLine?_if binds isName) others
      fun around others => readStatements?_statementLines (depth + 1) around [] others body inside

theorem readStatements?_statementLines (depth : Nat)
    (around : List ((List Statement → Statement) × List Statement)) (done : List Statement)
    (others : List String) (statements : List Statement) (legible : AllLegible statements) :
    readStatements? lexeme around done (statementLines lexeme depth statements ++ others) =
      readStatements? lexeme around (done ++ statements) others := by
  match statements with
  | [] => rw [statementLines, List.nil_append, List.append_nil]
  | statement :: rest =>
    obtain ⟨first, later⟩ := legible
    rw [statementLines, List.append_assoc,
      readStatements?_lines depth around done _ statement first,
      readStatements?_statementLines depth around (done ++ [statement]) others rest later,
      List.append_assoc, List.singleton_append]

end

/-! ### Bodies -/

/-- A name ends where something else comes. -/
theorem name_ends (isName : PlainName name) (rest : List Char)
    (ends : rest.head?.any inName = false) :
    String.ofList ((name.toList ++ rest).takeWhile inName) = name ∧
      (name.toList ++ rest).dropWhile inName = rest := by
  have stops : rest.takeWhile inName = [] ∧ rest.dropWhile inName = rest := by
    cases rest with
    | nil => exact ⟨rfl, rfl⟩
    | cons c rest =>
      have other : ¬inName c = true := by simpa using ends
      exact ⟨List.takeWhile_cons_of_neg other, List.dropWhile_cons_of_neg other⟩
  rw [List.takeWhile_append_of_pos isName, List.dropWhile_append_of_pos isName, stops.1, stops.2,
    List.append_nil, String.ofList_toList]
  exact ⟨rfl, rfl⟩

theorem readOperands?_cons {count : Nat} {operand : Operand} (isName : PlainName operand.field)
    (ends : rest.head?.any inName = false) (unlike : rest.head? ≠ some '.') :
    readOperands? lexeme (count + 1) ((", " ++ operand.text lexeme).toList ++ rest) =
      (readOperands? lexeme count rest).map (operand :: ·) := by
  cases operand with
  | value name =>
    obtain ⟨named, after⟩ := name_ends isName rest ends
    have code : (", " ++ (Operand.value name).text lexeme).toList ++ rest =
        ", self.".toList ++ (name.toList ++ rest) := by
      simp [Operand.text]
    have bare : rest.dropPrefix? ("." ++ lexeme ++ "()").toList = none := by
      refine Option.eq_none_iff_forall_ne_some.mpr fun others found => unlike ?_
      obtain ⟨front, rfl, same⟩ := List.dropPrefix?_eq_some_iff.mp found
      obtain rfl := eq_of_beq same
      simp
    rw [code, readOperands?, List.dropPrefix?_append_of_beq _ (beq_self_eq_true _)]
    simp only [Option.bind_eq_bind, Option.bind_some, Operand.field] at named after ⊢
    rw [named, after, bare]
  | lexeme name =>
    have call : (("." ++ lexeme ++ "()").toList ++ rest).head?.any inName = false := by
      simp [inName, Text.isAlphanumeric]
    obtain ⟨named, after⟩ := name_ends isName _ call
    have code : (", " ++ (Operand.lexeme name).text lexeme).toList ++ rest =
        ", self.".toList ++ (name.toList ++ (("." ++ lexeme ++ "()").toList ++ rest)) := by
      simp [Operand.text]
    rw [code, readOperands?, List.dropPrefix?_append_of_beq _ (beq_self_eq_true _)]
    simp only [Option.bind_eq_bind, Option.bind_some, Operand.field] at named after ⊢
    rw [named, after, List.dropPrefix?_append_of_beq _ (beq_self_eq_true _)]

theorem readOperands?_join (operands : List Operand)
    (names : ∀ operand ∈ operands, PlainName operand.field) :
    readOperands? lexeme operands.length
      ((String.join (operands.map fun operand => ", " ++ operand.text lexeme)).toList ++ [')']) =
        some operands := by
  induction operands with
  | nil => rfl
  | cons operand others ih =>
    obtain ⟨first, later⟩ := List.forall_mem_cons.mp names
    let rest :=
      (String.join (others.map fun operand => ", " ++ operand.text lexeme)).toList ++ [')']
    have next : rest.head? = some ',' ∨ rest.head? = some ')' := by
      cases others <;> simp [rest, String.join_cons]
    have ends : rest.head?.any inName = false := by
      rcases next with next | next <;> rw [next] <;> decide
    have unlike : rest.head? ≠ some '.' := by
      rcases next with next | next <;> rw [next] <;> decide
    rw [List.map_cons, String.join_cons, String.toList_append, List.append_assoc, List.length_cons,
      readOperands?_cons first ends unlike, ih later, Option.map_some]

theorem commaSeparated_cons (first : String) (others : List String) :
    ", " ++ commaSeparated (first :: others) =
      String.join ((first :: others).map (", " ++ ·)) := by
  induction others generalizing first with
  | nil => simp [commaSeparated, String.join_cons]
  | cons second others ih =>
    rw [List.map_cons, String.join_cons, ← ih second]
    simp [commaSeparated, String.append_assoc]

theorem readCall?_text (text : String) :
    readCall? lexeme ("f.write_str(" ++ Text.quoted text ++ ")").toList = some (.text text) := by
  have found := between?_append "f.write_str(" ")" (Text.quoted text).toList
  rw [readCall?, String.append_assoc, String.toList_append, String.toList_append, found]
  simp only [String.ofList_toList, Text.literalText?_quoted, Option.map_some]

theorem readCall?_format {template : String} {operands : List Operand}
    (legible : (Body.format template operands).Legible) :
    readCall? lexeme ("write!(f, " ++ Text.quoted template ++ ", " ++
      commaSeparated (operands.map (·.text lexeme)) ++ ")").toList =
        some (.format template operands) := by
  obtain ⟨nonempty, names, pieces, formatted, count⟩ := legible
  have arguments : ", " ++ commaSeparated (operands.map (·.text lexeme)) =
      String.join (operands.map fun operand => ", " ++ operand.text lexeme) := by
    obtain ⟨first, others, rfl⟩ := List.exists_cons_of_ne_nil nonempty
    have joined := commaSeparated_cons (first.text lexeme) (others.map (·.text lexeme))
    rwa [← List.map_cons, List.map_map] at joined
  have code : ("write!(f, " ++ Text.quoted template ++ ", " ++
      commaSeparated (operands.map (·.text lexeme)) ++ ")").toList =
        "write!(f, ".toList ++ ((Text.quoted template).toList ++
          ((String.join (operands.map fun operand => ", " ++ operand.text lexeme)).toList ++
            [')'])) := by
    rw [← arguments]
    simp
  have other : between? "f.write_str(" ")" ("write!(f, ".toList ++ ((Text.quoted template).toList ++
      ((String.join (operands.map fun operand => ", " ++ operand.text lexeme)).toList ++
        [')']))) = none := rfl
  rw [code, readCall?, other, List.dropPrefix?_append_of_beq _ (beq_self_eq_true _)]
  simp only [Option.bind_eq_bind, Option.bind_some, Text.leadingLiteral?_quoted,
    Text.literalText?_quoted, formatted, List.drop_left, count,
    readOperands?_join operands names]
  rfl

/-- The body of a renderer is read back from its lines. -/
theorem readBody?_lines {body : Body} (legible : body.Legible) :
    readBody? lexeme (body.lines lexeme) = some body := by
  have call (line : String) (starts : line.toList.head? ≠ some ' ')
      (other : line.toList ≠ "Ok(())".toList) :
      readBody? lexeme [indented 2 line] = readCall? lexeme line.toList := by
    rw [readBody?, List.getLast?_singleton, Option.bind_eq_bind, Option.bind_some,
      afterIndent_indented starts, if_neg other]
    rfl
  cases body with
  | text shown =>
    rw [Body.lines, call _ (by simp) (by simp), readCall?_text]
  | format template operands =>
    rw [Body.lines, call _ (by simp) (by simp), readCall?_format legible]
  | block statements =>
    have last : afterIndent (indented 2 "Ok(())") = "Ok(())".toList :=
      afterIndent_indented (by decide)
    have inside : readStatements? lexeme [] [] (statementLines lexeme 2 statements) =
        some statements := by
      rw [← List.append_nil (statementLines lexeme 2 statements),
        readStatements?_statementLines 2 [] [] [] statements legible]
      rfl
    rw [Body.lines, readBody?, List.getLast?_concat, Option.bind_eq_bind, Option.bind_some, last,
      if_pos rfl, List.dropLast_concat, inside, Option.map_some]

end Source

end TreeSchema
