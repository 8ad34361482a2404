import TreeSchema.Proofs.Text.Literal

/-!
Literals in the text around them. A literal goes from a double quote to the next one that no
backslash escapes. Quoting a text gives such a literal on one line, whatever the text holds.
-/

namespace TreeSchema.Text

variable {c : Char} {chars rest : List Char} {offset digit n : Nat}

/-- The characters that end a line, in any reading of lines. -/
def lineBreaks : List Char :=
  ['\n', '\x0b', '\x0c', '\r', '\u0085', '\u2028', '\u2029']

/-- Where the double quotes are that no backslash escapes. -/
def bareQuotes (offset : Nat) : List Char → List Nat
  | [] => []
  | '\\' :: _ :: rest => bareQuotes (offset + 2) rest
  | c :: rest =>
    if c = '"' then offset :: bareQuotes (offset + 1) rest else bareQuotes (offset + 1) rest

/-- The literal that a text starts with. -/
def leadingLiteral? : List Char → Option String
  | '"' :: rest =>
    (bareQuotes 0 rest).head?.map fun close => String.ofList ('"' :: rest.take (close + 1))
  | _ => none

/-- The literal is written on one line, its quotes are the only ones that are not escaped, and it
stands for the text. -/
structure Denotes (literal text : String) : Prop where
  oneLine : ∀ c ∈ literal.toList, c ∉ lineBreaks
  delimited : bareQuotes 0 literal.toList = [0, literal.toList.length - 1]
  meaning : literalText? literal = some text

/-! ### Plain characters -/

/-- The character means nothing to a reader of literals or lines. -/
def Plain (c : Char) : Prop := c ≠ '"' ∧ c ≠ '\\' ∧ c ∉ lineBreaks

instance : DecidablePred Plain := fun _ => inferInstanceAs (Decidable (_ ∧ _))

theorem plain_digitChar (small : digit < 16) : Plain digit.digitChar := by
  revert digit
  decide

theorem plain_of_mem_hexDigits (member : c ∈ hexDigits n) : Plain c := by
  unfold hexDigits at member
  induction n using Nat.base_induction 16 (by decide) with
  | single digit small =>
    rw [Nat.toDigits_of_lt_base small] at member
    exact List.mem_singleton.mp member ▸ plain_digitChar small
  | digit front last small positive ih =>
    rw [← Nat.toDigits_append_toDigits (by decide) positive small,
      Nat.toDigits_of_lt_base small] at member
    rcases List.mem_append.mp member with early | final
    · exact ih early
    · exact List.mem_singleton.mp final ▸ plain_digitChar small

/-- Between the backslash and its `u` and the end of the escape, every character is plain. -/
theorem plain_of_mem_codePoint (member : c ∈ '{' :: (hexDigits n ++ ['}'])) : Plain c := by
  rcases List.mem_cons.mp member with rfl | later
  · decide
  · rcases List.mem_append.mp later with digit | closing
    · exact plain_of_mem_hexDigits digit
    · exact List.mem_singleton.mp closing ▸ by decide

theorem isShown_of_mem_lineBreaks (ends : c ∈ lineBreaks) : isShown c = false := by
  have each : lineBreaks.all (fun c => !isShown c) = true := by decide +kernel
  simpa using List.all_eq_true.mp each c ends

/-! ### Quotes -/

theorem bareQuotes_cons (quote : c ≠ '"') (backslash : c ≠ '\\') :
    bareQuotes offset (c :: rest) = bareQuotes (offset + 1) rest := by
  rw [bareQuotes]
  · rw [if_neg quote]
  · rintro head others rfl
    exact absurd rfl backslash

theorem bareQuotes_quote :
    bareQuotes offset ('"' :: rest) = offset :: bareQuotes (offset + 1) rest := by
  rw [bareQuotes]
  · rw [if_pos rfl]
  · rintro head others impossible
    cases impossible

theorem bareQuotes_append (plain : ∀ c ∈ chars, Plain c) :
    bareQuotes offset (chars ++ rest) = bareQuotes (offset + chars.length) rest := by
  induction chars generalizing offset with
  | nil => rfl
  | cons c others ih =>
    obtain ⟨⟨quote, backslash, -⟩, later⟩ := List.forall_mem_cons.mp plain
    rw [List.cons_append, bareQuotes_cons quote backslash, ih later, List.length_cons,
      Nat.add_assoc, Nat.add_comm 1]

theorem bareQuotes_escapeChar (c : Char) :
    bareQuotes offset (escapeChar c ++ rest) =
      bareQuotes (offset + (escapeChar c).length) rest := by
  unfold escapeChar
  split_ifs with quote backslash nul tab carriage feed shown
  · rfl
  · rfl
  · rfl
  · rfl
  · rfl
  · rfl
  · exact bareQuotes_cons quote backslash
  · have skipped : bareQuotes offset (['\\', 'u', '{'] ++ hexDigits c.toNat ++ ['}'] ++ rest) =
        bareQuotes (offset + 2) ('{' :: (hexDigits c.toNat ++ ['}']) ++ rest) := by
      simp [bareQuotes]
    rw [skipped, bareQuotes_append fun _ => plain_of_mem_codePoint]
    simp only [List.length_append, List.length_cons, List.length_nil]
    congr 1
    omega

/-- Nothing between the quotes of a quoted text is taken for a quote. -/
theorem bareQuotes_flatMap_escapeChar (text : List Char) :
    bareQuotes offset (text.flatMap escapeChar ++ rest) =
      bareQuotes (offset + (text.flatMap escapeChar).length) rest := by
  induction text generalizing offset with
  | nil => rfl
  | cons c others ih =>
    rw [List.flatMap_cons, List.append_assoc, bareQuotes_escapeChar, ih, List.length_append,
      Nat.add_assoc]

/-! ### Quoted texts -/

theorem toList_quoted (text : String) :
    (quoted text).toList = '"' :: (text.toList.flatMap escapeChar ++ ['"']) := by
  simp [quoted, quotedChars]

theorem not_mem_lineBreaks_of_mem_pair {d : Char} (plain : c ∉ lineBreaks)
    (member : d ∈ ['\\', c]) : d ∉ lineBreaks := by
  rcases List.mem_cons.mp member with rfl | escaped
  · decide
  · exact List.mem_singleton.mp escaped ▸ plain

theorem not_mem_lineBreaks_of_mem_escapeChar {d : Char} (member : d ∈ escapeChar c) :
    d ∉ lineBreaks := by
  unfold escapeChar at member
  split_ifs at member with quote backslash nul tab carriage feed shown
  · exact not_mem_lineBreaks_of_mem_pair (by decide) member
  · exact not_mem_lineBreaks_of_mem_pair (by decide) member
  · exact not_mem_lineBreaks_of_mem_pair (by decide) member
  · exact not_mem_lineBreaks_of_mem_pair (by decide) member
  · exact not_mem_lineBreaks_of_mem_pair (by decide) member
  · exact not_mem_lineBreaks_of_mem_pair (by decide) member
  · obtain rfl := List.mem_singleton.mp member
    intro ends
    simp [isShown_of_mem_lineBreaks ends] at shown
  · rw [List.append_assoc, List.cons_append, List.cons_append] at member
    rcases List.mem_cons.mp member with rfl | later
    · decide
    rcases List.mem_cons.mp later with rfl | point
    · decide
    · exact (plain_of_mem_codePoint point).2.2

theorem denotes_quoted (text : String) : Denotes (quoted text) text := by
  refine ⟨?oneLine, ?delimited, literalText?_quoted text⟩
  case oneLine =>
    intro c member
    rw [toList_quoted] at member
    rcases List.mem_cons.mp member with rfl | later
    · decide
    rcases List.mem_append.mp later with inside | closing
    · obtain ⟨d, -, member⟩ := List.mem_flatMap.mp inside
      exact not_mem_lineBreaks_of_mem_escapeChar member
    · exact List.mem_singleton.mp closing ▸ by decide
  case delimited =>
    rw [toList_quoted, bareQuotes_quote, bareQuotes_flatMap_escapeChar, bareQuotes_quote,
      bareQuotes, List.length_cons, List.length_append, List.length_singleton,
      Nat.add_sub_cancel, Nat.zero_add, Nat.add_comm]

/-- A reader finds the end of a quoted text, whatever follows it. -/
theorem leadingLiteral?_quoted (text : String) (rest : List Char) :
    leadingLiteral? ((quoted text).toList ++ rest) = some (quoted text) := by
  have close : bareQuotes 0 (text.toList.flatMap escapeChar ++ '"' :: rest) =
      (text.toList.flatMap escapeChar).length ::
        bareQuotes ((text.toList.flatMap escapeChar).length + 1) rest := by
    rw [bareQuotes_flatMap_escapeChar, bareQuotes_quote, Nat.zero_add]
  rw [toList_quoted, List.cons_append, List.append_assoc, List.singleton_append, leadingLiteral?,
    close, List.head?_cons, Option.map_some, Option.some.injEq, List.take_length_add_append,
    List.take_succ_cons, List.take_zero, ← toList_quoted, String.ofList_toList]

end TreeSchema.Text
