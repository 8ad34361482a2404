import Mathlib.Logic.ExistsUnique
import TreeSchema.Template

/-!
The grammar of formats. A text of the grammar can be read. In any other the first brace without a
partner is reported, and what stands before it can be read by itself.
-/

namespace TreeSchema.Template

variable {offset : Nat} {text rest : List Char} {found : List Piece} {fault : TemplateFault}
  {format part : String}

/-! ### Formats -/

/-- A character that is no brace, a doubled brace, or the place of an argument. -/
inductive IsPart : String → Prop
  | char {c : Char} (opens : c ≠ '{') (closes : c ≠ '}') : IsPart (String.singleton c)
  | openBrace : IsPart "\x7b\x7b"
  | closeBrace : IsPart "\x7d\x7d"
  | place : IsPart "\x7b\x7d"

def IsFormat (format : String) : Prop :=
  ∃ parts : List String, (∀ part ∈ parts, IsPart part) ∧ String.join parts = format

/-- A piece as a format writes it. -/
def Piece.chars : Piece → List Char
  | .char c => escapeChar c
  | .placeholder => ['{', '}']

theorem escapeChar_of_ne {c : Char} (opens : c ≠ '{') (closes : c ≠ '}') : escapeChar c = [c] := by
  rw [escapeChar, if_neg]
  rintro (same | same)
  · exact opens same
  · exact closes same

theorem isPart_chars (piece : Piece) : IsPart (String.ofList piece.chars) := by
  cases piece with
  | placeholder => exact .place
  | char c =>
    by_cases opens : c = '{'
    · subst opens
      exact .openBrace
    · by_cases closes : c = '}'
      · subst closes
        exact .closeBrace
      · rw [Piece.chars, escapeChar_of_ne opens closes]
        exact .char opens closes

theorem IsPart.exists_piece (h : IsPart part) : ∃ piece : Piece, piece.chars = part.toList := by
  cases h with
  | @char c opens closes =>
    refine ⟨.char c, ?_⟩
    rw [Piece.chars, escapeChar_of_ne opens closes, String.toList_singleton]
  | openBrace => exact ⟨.char '{', rfl⟩
  | closeBrace => exact ⟨.char '}', rfl⟩
  | place => exact ⟨.placeholder, rfl⟩

theorem isFormat_iff :
    IsFormat format ↔ ∃ found : List Piece, found.flatMap Piece.chars = format.toList := by
  constructor
  · rintro ⟨parts, all, rfl⟩
    induction parts with
    | nil => exact ⟨[], rfl⟩
    | cons part others ih =>
      obtain ⟨first, later⟩ := List.forall_mem_cons.mp all
      obtain ⟨piece, same⟩ := first.exists_piece
      obtain ⟨found, rest⟩ := ih later
      refine ⟨piece :: found, ?_⟩
      rw [List.flatMap_cons, same, rest, String.join_cons, String.toList_append]
  · rintro ⟨found, written⟩
    refine ⟨found.map fun piece => String.ofList piece.chars, ?_, ?_⟩
    · intro part member
      obtain ⟨piece, -, rfl⟩ := List.mem_map.mp member
      exact isPart_chars piece
    · rw [← String.toList_inj, String.toList_join, List.flatMap_map, ← written]
      simp only [String.toList_ofList]

/-! ### Reading -/

/-- How many bytes a text takes. -/
def byteSize (text : List Char) : Nat :=
  (String.ofList text).utf8ByteSize

theorem byteSize_append (front back : List Char) :
    byteSize (front ++ back) = byteSize front + byteSize back := by
  rw [byteSize, String.ofList_append, String.utf8ByteSize_append]
  rfl

theorem byteSize_singleton (c : Char) : byteSize [c] = c.utf8Size := by
  rw [byteSize]
  exact String.utf8ByteSize_singleton

/-- How a piece is read does not depend on what follows it. -/
theorem pieces_chars_append (offset : Nat) (piece : Piece) (rest : List Char) :
    pieces offset (piece.chars ++ rest) =
      (pieces (offset + byteSize piece.chars) rest).map (piece :: ·) := by
  cases piece with
  | placeholder => rfl
  | char c =>
    by_cases opens : c = '{'
    · subst opens
      rfl
    · by_cases closes : c = '}'
      · subst closes
        rfl
      · rw [Piece.chars, escapeChar_of_ne opens closes, byteSize_singleton, List.singleton_append]
        simp [pieces, opens, closes]

theorem pieces_flatMap_append (offset : Nat) (found : List Piece) (rest : List Char) :
    pieces offset (found.flatMap Piece.chars ++ rest) =
      (pieces (offset + byteSize (found.flatMap Piece.chars)) rest).map (found ++ ·) := by
  induction found generalizing offset with
  | nil =>
    have stays : offset + byteSize (([] : List Piece).flatMap Piece.chars) = offset := rfl
    rw [stays, List.flatMap_nil, List.nil_append]
    cases pieces offset rest with
    | error fault => rfl
    | ok others => rfl
  | cons piece others ih =>
    rw [List.flatMap_cons, List.append_assoc, pieces_chars_append, ih, byteSize_append,
      Nat.add_assoc]
    cases pieces (offset + (byteSize piece.chars + byteSize (others.flatMap Piece.chars))) rest with
    | error fault => rfl
    | ok last => rfl

theorem pieces_flatMap (offset : Nat) (found : List Piece) :
    pieces offset (found.flatMap Piece.chars) = .ok found := by
  have read := pieces_flatMap_append offset found []
  rw [List.append_nil] at read
  rw [read, pieces, Except.map, List.append_nil]

/-! ### Faults -/

/-- The text starts with a brace that has no partner, and the fault tells where it starts. -/
inductive Unmatched (offset : Nat) : List Char → TemplateFault → Prop
  | opened {rest : List Char} (noOpen : rest.head? ≠ some '{') (noClose : rest.head? ≠ some '}') :
    Unmatched offset ('{' :: rest) (.unmatchedOpen offset)
  | closed {rest : List Char} (noClose : rest.head? ≠ some '}') :
    Unmatched offset ('}' :: rest) (.unmatchedClose offset)

theorem Unmatched.pieces_eq (h : Unmatched offset text fault) :
    pieces offset text = .error fault := by
  cases h with
  | @opened rest noOpen noClose =>
    cases rest with
    | nil => rfl
    | cons d others =>
      have noOpen : d ≠ '{' := by simpa using noOpen
      have noClose : d ≠ '}' := by simpa using noClose
      simp [pieces, noOpen, noClose]
  | @closed rest noClose =>
    cases rest with
    | nil => rfl
    | cons d others =>
      have noClose : d ≠ '}' := by simpa using noClose
      simp [pieces, noClose]

/-- The text is pieces up to its end, or up to a brace without a partner. -/
def Scans (offset : Nat) (text : List Char) : Prop :=
  ∃ (found : List Piece) (rest : List Char), text = found.flatMap Piece.chars ++ rest ∧
    (rest = [] ∨ ∃ fault, Unmatched (offset + byteSize (found.flatMap Piece.chars)) rest fault)

theorem Scans.cons (piece : Piece) (h : Scans (offset + byteSize piece.chars) rest) :
    Scans offset (piece.chars ++ rest) := by
  obtain ⟨found, last, rfl, ends⟩ := h
  refine ⟨piece :: found, last, ?_, ?_⟩
  · rw [List.flatMap_cons, List.append_assoc]
  · rw [List.flatMap_cons, byteSize_append, ← Nat.add_assoc]
    exact ends

theorem scans_of_unmatched (h : Unmatched offset text fault) : Scans offset text :=
  ⟨[], text, rfl, .inr ⟨fault, h⟩⟩

theorem scans (offset : Nat) (text : List Char) : Scans offset text := by
  fun_induction pieces offset text with
  | case1 offset => exact ⟨[], [], rfl, .inl rfl⟩
  | case2 offset rest ih => exact Scans.cons (.char '{') ih
  | case3 offset rest ih => exact Scans.cons .placeholder ih
  | case4 offset rest ih => exact Scans.cons (.char '}') ih
  | case5 offset rest noOpen noClose =>
    apply scans_of_unmatched
    apply Unmatched.opened
    · intro next
      obtain ⟨others, rfl⟩ := List.head?_eq_some_iff.mp next
      exact noOpen others rfl rfl
    · intro next
      obtain ⟨others, rfl⟩ := List.head?_eq_some_iff.mp next
      exact noClose others rfl rfl
  | case6 offset rest _ _ noClose =>
    apply scans_of_unmatched
    apply Unmatched.closed
    intro next
    obtain ⟨others, rfl⟩ := List.head?_eq_some_iff.mp next
    exact noClose others rfl rfl
  | case7 offset c rest noOpen noPlace noClose opens closes ih =>
    have plain : (Piece.char c).chars = [c] := escapeChar_of_ne opens closes
    rw [← byteSize_singleton, ← plain] at ih
    rw [← List.singleton_append, ← plain]
    exact ih.cons (.char c)

/-! ### Formats and faults -/

theorem parse_of_flatMap (written : found.flatMap Piece.chars = format.toList) :
    parse format = .ok (join found) := by
  rw [parse, ← written, pieces_flatMap]
  rfl

theorem parse_append_of_unmatched {before after : String} (fine : IsFormat before)
    (brace : Unmatched before.utf8ByteSize after.toList fault) :
    parse (before ++ after) = .error fault := by
  obtain ⟨found, written⟩ := isFormat_iff.mp fine
  have size : byteSize (found.flatMap Piece.chars) = before.utf8ByteSize := by
    rw [byteSize, written, String.ofList_toList]
  rw [parse, String.toList_append, ← written, pieces_flatMap_append, size, Nat.zero_add,
    brace.pieces_eq]
  rfl

theorem isFormat_or_unmatched (format : String) :
    IsFormat format ∨ ∃ before after fault, format = before ++ after ∧ IsFormat before ∧
      Unmatched before.utf8ByteSize after.toList fault := by
  obtain ⟨found, rest, parts, rfl | ⟨fault, brace⟩⟩ := scans 0 format.toList
  · left
    exact isFormat_iff.mpr ⟨found, by rw [parts, List.append_nil]⟩
  · right
    refine ⟨String.ofList (found.flatMap Piece.chars), String.ofList rest, fault, ?_, ?_, ?_⟩
    · rw [← String.toList_inj, String.toList_append, String.toList_ofList, String.toList_ofList]
      exact parts
    · exact isFormat_iff.mpr ⟨found, by rw [String.toList_ofList]⟩
    · rw [Nat.zero_add] at brace
      rw [String.toList_ofList]
      exact brace

theorem exists_parse_eq_ok_iff : (∃ segments, parse format = .ok segments) ↔ IsFormat format := by
  constructor
  · rintro ⟨segments, read⟩
    rcases isFormat_or_unmatched format with fine | ⟨before, after, fault, rfl, fine, brace⟩
    · exact fine
    · rw [parse_append_of_unmatched fine brace] at read
      cases read
  · intro fine
    obtain ⟨found, written⟩ := isFormat_iff.mp fine
    exact ⟨join found, parse_of_flatMap written⟩

/-- What stands before the fault can be read, and the brace at the fault has no partner. -/
def FirstUnmatched (format : String) (fault : TemplateFault) : Prop :=
  ∃ before after : String, format = before ++ after ∧ (∃ segments, parse before = .ok segments) ∧
    Unmatched before.utf8ByteSize after.toList fault

theorem parse_eq_error_iff : parse format = .error fault ↔ FirstUnmatched format fault := by
  constructor
  · intro refused
    rcases isFormat_or_unmatched format with fine | ⟨before, after, other, rfl, fine, brace⟩
    · obtain ⟨segments, read⟩ := exists_parse_eq_ok_iff.mpr fine
      rw [read] at refused
      cases refused
    · rw [parse_append_of_unmatched fine brace] at refused
      obtain rfl : other = fault := Except.error.inj refused
      exact ⟨before, after, rfl, exists_parse_eq_ok_iff.mpr fine, brace⟩
  · rintro ⟨before, after, rfl, read, brace⟩
    exact parse_append_of_unmatched (exists_parse_eq_ok_iff.mp read) brace

/-- A text is refused for the first brace without a partner, by the byte at which it starts. Either
there is one such brace and one way in which it is unmatched, or the text is read. -/
theorem parse_refuses_first_unmatched (format : String) :
    (∀ fault, parse format = .error fault ↔ FirstUnmatched format fault) ∧
    ∃! fault? : Option TemplateFault,
      fault?.elim (∃ segments, parse format = .ok segments) (FirstUnmatched format) := by
  constructor
  · intro fault
    exact parse_eq_error_iff
  · cases read : parse format with
    | ok segments =>
      refine ⟨none, ⟨segments, rfl⟩, ?_⟩
      intro fault? holds
      cases fault? with
      | none => rfl
      | some fault =>
        have refused := parse_eq_error_iff.mpr holds
        rw [read] at refused
        cases refused
    | error fault =>
      refine ⟨some fault, parse_eq_error_iff.mp read, ?_⟩
      intro fault? holds
      cases fault? with
      | none =>
        obtain ⟨segments, other⟩ := holds
        cases other
      | some other =>
        have refused := parse_eq_error_iff.mpr holds
        rw [read] at refused
        rw [Except.error.inj refused]

/-- The letter before the brace takes two bytes, and the pair before it is read. -/
example : parse "\x7b\x7bä\x7bx\x7d" = .error (.unmatchedOpen 4) := rfl

end TreeSchema.Template
