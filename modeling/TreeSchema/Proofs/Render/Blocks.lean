import TreeSchema.Proofs.Render.Mentions
import TreeSchema.Proofs.Render.Scopes

/-!
Blocks and uses of the item in code. A line is read without knowing the program it was written for:
whether it opens a block, which names that introduces, and where it has the variable `item`.
-/

namespace TreeSchema

open Source Scoping

variable {lexeme name line : String} {depth n : Nat} {before : Char}
  {word rest chars code : List Char}

/-! ### Reading code -/

/-- Whether the code starts with the name `item` and no longer one. -/
def startsItem : List Char → Bool
  | 'i' :: 't' :: 'e' :: 'm' :: rest => !rest.head?.any inName
  | _ => false

/-- How often the code has the variable `item` outside of its literals. -/
def countItem : CodePlace → List Char → Nat
  | _, [] => 0
  | .escape, _ :: rest => countItem .literal rest
  | .literal, c :: rest =>
    countItem (if c = '\\' then .escape else if c = '"' then .code c else .literal) rest
  | .code before, c :: rest =>
    if startsItem (c :: rest) && opensName before then
      countItem (if c = '"' then .literal else .code c) rest + 1
    else countItem (if c = '"' then .literal else .code c) rest

/-- The code before and after the first place where it has the given part. -/
def cut? (part : List Char) : List Char → Option (List Char × List Char)
  | [] => none
  | c :: rest =>
    if part.isPrefixOf (c :: rest) then some ([], (c :: rest).drop part.length)
    else (cut? part rest).map fun (front, back) => (c :: front, back)

/-- The name of the first field that the code reads. -/
def fieldIn (code : List Char) : String :=
  String.ofList (((cut? "self.".toList code).map fun (_, back) => back.takeWhile inName).getD [])

/-- The head of a block: the pattern that introduces names, and the value it is matched with. -/
structure BlockHead where
  pattern : List Char
  value : List Char
  subject : Subject

def blockHead? (code : List Char) : Option BlockHead :=
  match code.dropPrefix? "for ".toList, code.dropPrefix? "if let ".toList,
    code.dropPrefix? "if ".toList with
  | some loop, _, _ => (cut? " in ".toList loop).map fun (pattern, value) =>
    ⟨pattern, value, .each (fieldIn value)⟩
  | none, some binding, _ => (cut? " = &".toList binding).map fun (pattern, value) =>
    ⟨pattern, value, .present (fieldIn value)⟩
  | none, none, some value => some ⟨[], value, .present (fieldIn value)⟩
  | none, none, none => none

/-- The code without the call of the accessor of tokens that it ends with, if it does. What a schema
calls its accessor can be any text, and is no part of a program. -/
def withoutAccessor (lexeme : String) (code : List Char) : List Char :=
  (code.dropSuffix? ("." ++ lexeme ++ "())?;").toList).getD code

/-- How a statement writes the item. -/
def wayOf (lexeme : String) (code : List Char) : Way :=
  if code = "fmt::Display::fmt(item, f)?;".toList then .display
  else if code = ("f.write_str(item." ++ lexeme ++ "())?;").toList then .accessor
  else .other

/-- What the code of a line does with the name of the item. A name that the head of a block
introduces is not known in the value of that head. -/
def codeMarks (lexeme : String) (code : List Char) : List Mark :=
  if code = ['}'] then [.closes]
  else
    match blockHead? code with
    | some head => List.replicate (countItem (.code ' ') head.value) (.use .other) ++
        [.opens ⟨head.subject, 0 < countItem (.code ' ') head.pattern⟩]
    | none => List.replicate (countItem (.code ' ') (withoutAccessor lexeme code))
        (.use (wayOf lexeme code))

/-- What the lines do with the name of the item, each read after its indentation. -/
def itemMarks (lexeme : String) (lines : List String) : List Mark :=
  lines.flatMap fun line => codeMarks lexeme (line.toList.dropWhile (· == ' '))

/-! ### Names and literals -/

theorem countItem_word (letters : ∀ c ∈ word, inName c = true) (joined : opensName before = false)
    (after : ∀ before, countItem (.code before) rest = n) :
    countItem (.code before) (word ++ rest) = n := by
  induction word generalizing before with
  | nil => exact after before
  | cons c word ih =>
    obtain ⟨letter, letters⟩ := List.forall_mem_cons.mp letters
    have noQuote : c ≠ '"' := by
      rintro rfl
      exact absurd letter (by decide)
    have joins : opensName c = false := by simp [opensName, letter]
    rw [List.cons_append, countItem, joined, Bool.and_false, if_neg noQuote, ih letters joins]
    rfl

theorem countItem_plain (plain : ∀ c ∈ chars, Text.Plain c) :
    countItem .literal (chars ++ rest) = countItem .literal rest := by
  induction chars with
  | nil => rfl
  | cons c chars ih =>
    obtain ⟨⟨quote, backslash, -⟩, later⟩ := List.forall_mem_cons.mp plain
    rw [List.cons_append, countItem, if_neg backslash, if_neg quote, ih later]

theorem countItem_escapeChar (c : Char) :
    countItem .literal (Text.escapeChar c ++ rest) = countItem .literal rest := by
  unfold Text.escapeChar
  split_ifs with quote backslash nul tab carriage feed shown
  · rfl
  · rfl
  · rfl
  · rfl
  · rfl
  · rfl
  · rw [List.singleton_append, countItem, if_neg backslash, if_neg quote]
  · have point : countItem .literal (['\\', 'u', '{'] ++ Text.hexDigits c.toNat ++ ['}'] ++ rest) =
        countItem .literal ('{' :: (Text.hexDigits c.toNat ++ ['}']) ++ rest) := by
      simp [countItem]
    rw [point, countItem_plain fun _ => Text.plain_of_mem_codePoint]

/-- Nothing in a quoted text is a variable. -/
theorem countItem_quoted (text : String) :
    countItem (.code before) ((Text.quoted text).toList ++ rest) = countItem (.code '"') rest := by
  have inside : countItem .literal (text.toList.flatMap Text.escapeChar ++ '"' :: rest) =
      countItem (.code '"') rest := by
    induction text.toList with
    | nil => rfl
    | cons c others ih => rw [List.flatMap_cons, List.append_assoc, countItem_escapeChar, ih]
  have opening : startsItem ('"' :: (text.toList.flatMap Text.escapeChar ++ '"' :: rest)) = false :=
    rfl
  rw [Text.toList_quoted, List.cons_append, List.append_assoc, List.singleton_append, countItem,
    opening, Bool.false_and, if_neg Bool.false_ne_true, if_pos rfl, inside]

/-! ### Lines -/

theorem withoutAccessor_append (front : List Char) :
    withoutAccessor lexeme (front ++ ("." ++ lexeme ++ "())?;").toList) = front := by
  have found : (front ++ ("." ++ lexeme ++ "())?;").toList).dropSuffix?
      ("." ++ lexeme ++ "())?;").toList = some front :=
    List.dropSuffix?_eq_some_iff.mpr ⟨_, rfl, beq_self_eq_true _⟩
  rw [withoutAccessor, found, Option.getD_some]

/-- Code that ends otherwise ends with no call of the accessor, whatever that is called. -/
theorem withoutAccessor_of_ends (tail : List Char) (ends : tail <:+ code)
    (other : ¬tail <:+ "())?;".toList ∧ ¬"())?;".toList <:+ tail) :
    withoutAccessor lexeme code = code := by
  have missing : code.dropSuffix? ("." ++ lexeme ++ "())?;").toList = none := by
    refine Option.eq_none_iff_forall_ne_some.mpr fun front found => ?_
    obtain ⟨call, rfl, same⟩ := List.dropSuffix?_eq_some_iff.mp found
    obtain rfl := eq_of_beq same
    have called : "())?;".toList <:+ front ++ ("." ++ lexeme ++ "())?;").toList := by
      rw [String.toList_append, ← List.append_assoc]
      exact List.suffix_append _ _
    rcases List.suffix_or_suffix_of_suffix ends called with one | one
    · exact other.1 one
    · exact other.2 one
  rw [withoutAccessor, missing, Option.getD_none]

theorem itemMarks_append (first second : List String) :
    itemMarks lexeme (first ++ second) = itemMarks lexeme first ++ itemMarks lexeme second :=
  List.flatMap_append

theorem itemMarks_cons (starts : line.toList.head? ≠ some ' ') (others : List String) :
    itemMarks lexeme (indented depth line :: others) =
      codeMarks lexeme line.toList ++ itemMarks lexeme others := by
  rw [itemMarks, List.flatMap_cons, dropWhile_indented_of_head starts, itemMarks]

theorem itemMarks_singleton (starts : line.toList.head? ≠ some ' ') :
    itemMarks lexeme [indented depth line] = codeMarks lexeme line.toList := by
  rw [itemMarks_cons starts]
  exact List.append_nil _

theorem codeMarks_statement (unclosed : code ≠ ['}']) (noHead : blockHead? code = none)
    (counted : countItem (.code ' ') (withoutAccessor lexeme code) = n) :
    codeMarks lexeme code = List.replicate n (.use (wayOf lexeme code)) := by
  rw [codeMarks, if_neg unclosed, noHead, ← counted]

theorem codeMarks_head {head : BlockHead} (unclosed : code ≠ ['}'])
    (found : blockHead? code = some head) (unused : countItem (.code ' ') head.value = 0) :
    codeMarks lexeme code =
      [.opens ⟨head.subject, 0 < countItem (.code ' ') head.pattern⟩] := by
  simp only [codeMarks, if_neg unclosed, found, unused, List.replicate_zero, List.nil_append]

/-- A statement that does not end with a call of the accessor and does not have the name. -/
theorem codeMarks_other (tail : List Char) (unclosed : code ≠ ['}'])
    (noHead : blockHead? code = none) (ends : tail <:+ code)
    (other : ¬tail <:+ "())?;".toList ∧ ¬"())?;".toList <:+ tail)
    (unused : countItem (.code ' ') code = 0) : codeMarks lexeme code = [] := by
  refine codeMarks_statement (n := 0) unclosed noHead ?_
  rw [withoutAccessor_of_ends tail ends other, unused]

theorem countItem_writeStr (rest : List Char) :
    countItem (.code ' ') ("f.write_str(".toList ++ rest) = countItem (.code '(') rest :=
  rfl

theorem countItem_self (rest : List Char) (letters : ∀ c ∈ name.toList, inName c = true)
    (after : ∀ before, countItem (.code before) rest = 0) :
    countItem (.code ' ') ("self.".toList ++ (name.toList ++ rest)) = 0 := by
  have word : countItem (.code '.') (name.toList ++ rest) = 0 :=
    countItem_word letters (by decide) after
  exact word

theorem fieldIn_self (rest : List Char) (letters : ∀ c ∈ name.toList, inName c = true)
    (ends : rest.takeWhile inName = []) :
    fieldIn ("self.".toList ++ (name.toList ++ rest)) = name := by
  have first : fieldIn ("self.".toList ++ (name.toList ++ rest)) =
      String.ofList ((name.toList ++ rest).takeWhile inName) :=
    rfl
  rw [first, List.takeWhile_append_of_pos letters, ends, List.append_nil, String.ofList_toList]

theorem codeMarks_writeText (text : String) :
    codeMarks lexeme ("f.write_str(" ++ Text.quoted text ++ ")?;").toList = [] := by
  have code : ("f.write_str(" ++ Text.quoted text ++ ")?;").toList =
      "f.write_str(".toList ++ ((Text.quoted text).toList ++ ")?;".toList) := by
    rw [String.append_assoc, String.toList_append, String.toList_append]
  have ends : "\")?;".toList <:+
      "f.write_str(".toList ++ ((Text.quoted text).toList ++ ")?;".toList) :=
    ⟨"f.write_str(\"".toList ++ text.toList.flatMap Text.escapeChar, by simp [Text.toList_quoted]⟩
  have unused : countItem (.code ' ')
      ("f.write_str(".toList ++ ((Text.quoted text).toList ++ ")?;".toList)) = 0 := by
    rw [countItem_writeStr, countItem_quoted]
    rfl
  rw [code]
  exact codeMarks_other _ (by simp) rfl ends (by decide) unused

theorem codeMarks_writeLexeme_field (letters : ∀ c ∈ name.toList, inName c = true) :
    codeMarks lexeme ("f.write_str(self." ++ name ++ "." ++ lexeme ++ "())?;").toList = [] := by
  have code : ("f.write_str(self." ++ name ++ "." ++ lexeme ++ "())?;").toList =
      "f.write_str(self.".toList ++ name.toList ++ ("." ++ lexeme ++ "())?;").toList := by
    simp
  have unused : countItem (.code ' ') ("f.write_str(self.".toList ++ name.toList) = 0 := by
    have word : countItem (.code '.') (name.toList ++ []) = 0 :=
      countItem_word letters (by decide) fun _ => rfl
    rw [List.append_nil] at word
    exact word
  rw [code]
  refine codeMarks_statement (n := 0) (by simp) ?_ ?_
  · rw [List.append_assoc]
    rfl
  · rw [withoutAccessor_append, unused]

theorem codeMarks_writeLexeme_item :
    codeMarks lexeme ("f.write_str(item." ++ lexeme ++ "())?;").toList = [.use .accessor] := by
  have code : ("f.write_str(item." ++ lexeme ++ "())?;").toList =
      "f.write_str(item".toList ++ ("." ++ lexeme ++ "())?;").toList := by
    simp
  have way : wayOf lexeme ("f.write_str(item." ++ lexeme ++ "())?;").toList = .accessor := by
    rw [wayOf, if_neg (by simp), if_pos rfl]
  rw [codeMarks_statement (n := 1) (by simp) (by rw [code]; rfl), way]
  · rfl
  · rw [code, withoutAccessor_append]
    decide

theorem codeMarks_display_field (letters : ∀ c ∈ name.toList, inName c = true) :
    codeMarks lexeme ("fmt::Display::fmt(&self." ++ name ++ ", f)?;").toList = [] := by
  have code : ("fmt::Display::fmt(&self." ++ name ++ ", f)?;").toList =
      "fmt::Display::fmt(&self.".toList ++ (name.toList ++ ", f)?;".toList) := by
    simp
  have ends : ", f)?;".toList <:+ "fmt::Display::fmt(&self.".toList ++
      (name.toList ++ ", f)?;".toList) := by
    rw [← List.append_assoc]
    exact List.suffix_append _ _
  have unused : countItem (.code '.') (name.toList ++ ", f)?;".toList) = 0 :=
    countItem_word letters (by decide) fun _ => rfl
  rw [code]
  exact codeMarks_other _ (by simp) rfl ends (by decide) unused

theorem codeMarks_display_item :
    codeMarks lexeme "fmt::Display::fmt(item, f)?;".toList = [.use .display] := by
  refine codeMarks_statement (n := 1) (by decide) rfl ?_
  rw [withoutAccessor_of_ends ", f)?;".toList (by decide) (by decide)]
  decide

/-- The head of a block for a field of the record. What comes before the field decides which names
the block introduces. -/
theorem codeMarks_opens {start pattern : List Char} {subject : String → Subject} (tail : List Char)
    (letters : ∀ c ∈ name.toList, inName c = true)
    (reads : ∀ rest, blockHead? (start ++ rest) =
      some ⟨pattern, "self.".toList ++ rest, subject (fieldIn ("self.".toList ++ rest))⟩)
    (ends : tail.takeWhile inName = []) (after : ∀ before, countItem (.code before) tail = 0) :
    codeMarks lexeme (start ++ (name.toList ++ tail)) =
      [.opens ⟨subject name, 0 < countItem (.code ' ') pattern⟩] := by
  have head := reads (name.toList ++ tail)
  rw [fieldIn_self tail letters ends] at head
  have unclosed : start ++ (name.toList ++ tail) ≠ ['}'] := by
    intro same
    rw [same] at head
    cases head
  exact codeMarks_head unclosed head (countItem_self tail letters after)

theorem codeMarks_for (binds : Bool) (letters : ∀ c ∈ name.toList, inName c = true) :
    codeMarks lexeme ("for " ++ (if binds then "item" else "_") ++ " in self." ++ name ++
      ".iter() \x7b").toList = [.opens ⟨.each name, binds⟩] := by
  have code : ("for " ++ (if binds then "item" else "_") ++ " in self." ++ name ++
      ".iter() \x7b").toList = ("for " ++ (if binds then "item" else "_") ++ " in self.").toList ++
        (name.toList ++ ".iter() \x7b".toList) := by
    simp
  rw [code]
  cases binds with
  | true =>
    have reads (rest : List Char) : blockHead? ("for item in self.".toList ++ rest) =
        some ⟨"item".toList, "self.".toList ++ rest, .each (fieldIn ("self.".toList ++ rest))⟩ :=
      rfl
    exact codeMarks_opens ".iter() \x7b".toList letters reads rfl fun _ => rfl
  | false =>
    have reads (rest : List Char) : blockHead? ("for _ in self.".toList ++ rest) =
        some ⟨"_".toList, "self.".toList ++ rest, .each (fieldIn ("self.".toList ++ rest))⟩ :=
      rfl
    exact codeMarks_opens ".iter() \x7b".toList letters reads rfl fun _ => rfl

theorem codeMarks_if (binds : Bool) (letters : ∀ c ∈ name.toList, inName c = true) :
    codeMarks lexeme (if binds then "if let Some(item) = &self." ++ name ++ " \x7b"
      else "if self." ++ name ++ ".is_some() \x7b").toList = [.opens ⟨.present name, binds⟩] := by
  cases binds with
  | true =>
    have reads (rest : List Char) : blockHead? ("if let Some(item) = &self.".toList ++ rest) =
        some ⟨"Some(item)".toList, "self.".toList ++ rest,
          .present (fieldIn ("self.".toList ++ rest))⟩ :=
      rfl
    rw [if_pos rfl, String.append_assoc, String.toList_append, String.toList_append]
    exact codeMarks_opens " \x7b".toList letters reads rfl fun _ => rfl
  | false =>
    have reads (rest : List Char) : blockHead? ("if self.".toList ++ rest) =
        some ⟨[], "self.".toList ++ rest, .present (fieldIn ("self.".toList ++ rest))⟩ :=
      rfl
    rw [if_neg Bool.false_ne_true, String.append_assoc, String.toList_append,
      String.toList_append]
    exact codeMarks_opens ".is_some() \x7b".toList letters reads rfl fun _ => rfl

end TreeSchema
