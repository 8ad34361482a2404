import Mathlib.Tactic.SplitIfs
import TreeSchema.Text.Quoted

/-!
What a string literal stands for in the generated language. Quoting a text gives a literal that
stands for that text.
-/

namespace TreeSchema.Text

/-- Where a reader of a literal is: between characters, after a backslash, or among the digits of a
code point, with their count and value. -/
inductive LiteralMode where
  | plain
  | escaped
  | digits (count value : Nat)

def escapedChar? : Char → Option Char
  | '"' => some '"'
  | '\'' => some '\''
  | '\\' => some '\\'
  | '0' => some '\x00'
  | 't' => some '\t'
  | 'r' => some '\r'
  | 'n' => some '\n'
  | _ => none

def hexDigit? (c : Char) : Option Nat :=
  if '0' ≤ c ∧ c ≤ '9' then some (c.toNat - '0'.toNat)
  else if 'a' ≤ c ∧ c ≤ 'f' then some (c.toNat - 'a'.toNat + 10)
  else if 'A' ≤ c ∧ c ≤ 'F' then some (c.toNat - 'A'.toNat + 10)
  else none

/-- Reads a literal after its opening quote. Nothing may follow its closing quote. -/
def readLiteral : LiteralMode → List Char → Option (List Char)
  | _, [] => none
  | .plain, c :: rest =>
    if c = '"' then if rest.isEmpty then some [] else none
    else if c = '\\' then readLiteral .escaped rest
    else if c = '\r' then none
    else (readLiteral .plain rest).map (c :: ·)
  | .escaped, 'u' :: '{' :: rest => readLiteral (.digits 0 0) rest
  | .escaped, c :: rest =>
    match escapedChar? c with
    | some c => (readLiteral .plain rest).map (c :: ·)
    | none => none
  | .digits count value, c :: rest =>
    if c = '}' then
      if 0 < count ∧ count ≤ 6 ∧ value.isValidChar then
        (readLiteral .plain rest).map (Char.ofNat value :: ·)
      else none
    else
      match hexDigit? c with
      | some digit => readLiteral (.digits (count + 1) (16 * value + digit)) rest
      | none => none

/-- The text that a literal stands for. -/
def literalText? (literal : String) : Option String :=
  match literal.toList with
  | '"' :: rest => (readLiteral .plain rest).map String.ofList
  | _ => none

theorem hexDigit?_digitChar {digit : Nat} (h : digit < 16) :
    hexDigit? digit.digitChar = some digit ∧ digit.digitChar ≠ '}' := by
  revert digit
  decide

theorem readLiteral_digitChar {digit : Nat} (h : digit < 16) (count value : Nat)
    (rest : List Char) :
    readLiteral (.digits count value) (digit.digitChar :: rest) =
      readLiteral (.digits (count + 1) (16 * value + digit)) rest := by
  obtain ⟨known, other⟩ := hexDigit?_digitChar h
  rw [readLiteral, if_neg other, known]

theorem readLiteral_hexDigits (n count : Nat) (rest : List Char) :
    readLiteral (.digits count 0) (hexDigits n ++ rest) =
      readLiteral (.digits (count + (hexDigits n).length) n) rest := by
  unfold hexDigits
  induction n using Nat.base_induction 16 (by decide) generalizing count rest with
  | single digit small =>
    rw [Nat.toDigits_of_lt_base small, List.singleton_append, readLiteral_digitChar small]
    simp
  | digit front last small positive ih =>
    rw [← Nat.toDigits_append_toDigits (by decide) positive small, List.append_assoc, ih,
      Nat.toDigits_of_lt_base small, List.singleton_append, readLiteral_digitChar small,
      List.length_append, List.length_singleton, Nat.add_assoc]

theorem length_hexDigits (c : Char) :
    0 < (hexDigits c.toNat).length ∧ (hexDigits c.toNat).length ≤ 6 := by
  have bound : c.toNat < 16 ^ 6 := by
    rcases c.valid with low | ⟨-, high⟩
    · exact Nat.lt_trans low (by decide)
    · exact Nat.lt_trans high (by decide)
  exact ⟨Nat.length_toDigits_pos,
    (Nat.length_toDigits_le_iff (by decide) (by decide)).mpr bound⟩

theorem readLiteral_escapeChar (c : Char) (rest : List Char) :
    readLiteral .plain (escapeChar c ++ rest) = (readLiteral .plain rest).map (c :: ·) := by
  unfold escapeChar
  split_ifs with quote backslash nul tab carriage feed shown
  · subst quote
    rfl
  · subst backslash
    rfl
  · subst nul
    rfl
  · subst tab
    rfl
  · subst carriage
    rfl
  · subst feed
    rfl
  · rw [List.singleton_append, readLiteral, if_neg quote, if_neg backslash, if_neg carriage]
  · obtain ⟨some, few⟩ := length_hexDigits c
    have opened : readLiteral .plain (['\\', 'u', '{'] ++ hexDigits c.toNat ++ ['}'] ++ rest) =
        readLiteral (.digits 0 0) (hexDigits c.toNat ++ '}' :: rest) := by
      simp [readLiteral]
    rw [opened, readLiteral_hexDigits, Nat.zero_add, readLiteral, if_pos rfl, if_pos,
      Char.ofNat_toNat]
    exact ⟨some, few, c.valid⟩

/-- A quoted text is a literal that stands for the text. -/
theorem literalText?_quoted (text : String) : literalText? (quoted text) = some text := by
  have chars : ∀ list : List Char,
      readLiteral .plain (list.flatMap escapeChar ++ ['"']) = some list := by
    intro list
    induction list with
    | nil => rfl
    | cons c rest ih =>
      rw [List.flatMap_cons, List.append_assoc, readLiteral_escapeChar, ih, Option.map_some]
  have opened : (quoted text).toList = '"' :: (text.toList.flatMap escapeChar ++ ['"']) := by
    simp [quoted, quotedChars]
  rw [literalText?, opened]
  simp [chars]

end TreeSchema.Text
