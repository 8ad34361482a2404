import Mathlib.Data.List.Chain
import TreeSchema.Proofs.Template.Grammar

/-!
Formats and segments. Reading a format and printing segments undo each other, on the texts of the
grammar and on the segments in which no text is empty or next to another.
-/

namespace TreeSchema

/-- The pieces that the segment joins. -/
def Segment.pieces : Segment → List Template.Piece
  | .text shown => shown.toList.map .char
  | .placeholder => [.placeholder]

namespace Template

variable {rest : List Piece} {segments : List Segment}

/-- Texts hold something, and no text follows another. -/
structure Separated (segments : List Segment) : Prop where
  nonempty : .text "" ∉ segments
  apart : segments.IsChain fun first second => first = .placeholder ∨ second = .placeholder

theorem separated_nil : Separated [] :=
  ⟨List.not_mem_nil, .nil⟩

theorem Separated.tail {segment : Segment} (h : Separated (segment :: segments)) :
    Separated segments :=
  ⟨fun member => h.nonempty (List.mem_cons_of_mem _ member), h.apart.tail⟩

theorem separated_placeholder_cons (h : Separated segments) :
    Separated (.placeholder :: segments) := by
  refine ⟨?_, List.isChain_cons.mpr ⟨fun _ _ => .inl rfl, h.apart⟩⟩
  intro member
  rcases List.mem_cons.mp member with same | later
  · cases same
  · exact h.nonempty later

theorem separated_text_cons {shown : String} (nonempty : shown ≠ "") (h : Separated segments)
    (ends : ∀ other, segments.head? ≠ some (.text other)) :
    Separated (.text shown :: segments) := by
  refine ⟨?_, List.isChain_cons.mpr ⟨fun segment first => ?_, h.apart⟩⟩
  · intro member
    rcases List.mem_cons.mp member with same | later
    · cases same
      exact nonempty rfl
    · exact h.nonempty later
  · cases segment with
    | text other => exact absurd first (ends other)
    | placeholder => exact .inr rfl

theorem Separated.not_text_head? {shown : String} (h : Separated (.text shown :: segments))
    (other : String) : segments.head? ≠ some (.text other) := by
  intro first
  rcases (List.isChain_cons.mp h.apart).1 _ first with same | same
  · cases same
  · cases same

/-! ### Joining -/

theorem flatMap_pieces_consChar (c : Char) (segments : List Segment) :
    (consChar c segments).flatMap Segment.pieces =
      .char c :: segments.flatMap Segment.pieces := by
  unfold consChar
  split
  next shown others => simp [Segment.pieces]
  next => simp [Segment.pieces]

theorem flatMap_pieces_join (found : List Piece) :
    (join found).flatMap Segment.pieces = found := by
  induction found with
  | nil => rfl
  | cons piece others ih =>
    cases piece with
    | char c => rw [join, flatMap_pieces_consChar, ih]
    | placeholder =>
      rw [join, List.flatMap_cons, ih]
      rfl

theorem consChar_of_not_text (c : Char) (ends : ∀ other, segments.head? ≠ some (.text other)) :
    consChar c segments = .text (String.singleton c) :: segments := by
  unfold consChar
  split
  next other others => exact absurd rfl (ends other)
  next => rfl

theorem singleton_append_ne_empty (c : Char) (shown : String) :
    String.singleton c ++ shown ≠ "" := by
  intro empty
  have chars := congrArg String.toList empty
  simp at chars

theorem Separated.consChar (h : Separated segments) (c : Char) :
    Separated (consChar c segments) := by
  cases segments with
  | nil => exact separated_text_cons (by simp) h (by simp)
  | cons segment others =>
    cases segment with
    | text shown =>
      exact separated_text_cons (singleton_append_ne_empty c shown) h.tail h.not_text_head?
    | placeholder => exact separated_text_cons (by simp) h (by simp)

theorem separated_join (found : List Piece) : Separated (join found) := by
  induction found with
  | nil => exact separated_nil
  | cons piece others ih =>
    cases piece with
    | char c => exact ih.consChar c
    | placeholder => exact separated_placeholder_cons ih

/-- The characters of a text are joined to a text again, unless another text follows. -/
theorem join_map_char_append {chars : List Char} (nonempty : chars ≠ [])
    (ends : ∀ other, (join rest).head? ≠ some (.text other)) :
    join (chars.map .char ++ rest) = .text (String.ofList chars) :: join rest := by
  induction chars with
  | nil => exact absurd rfl nonempty
  | cons c others ih =>
    rw [List.map_cons, List.cons_append, join]
    cases others with
    | nil => exact consChar_of_not_text c ends
    | cons d more => rw [ih (by simp), consChar, ← String.ofList_cons]

theorem join_flatMap_pieces (h : Separated segments) :
    join (segments.flatMap Segment.pieces) = segments := by
  induction segments with
  | nil => rfl
  | cons segment others ih =>
    have later := ih h.tail
    rw [List.flatMap_cons]
    cases segment with
    | text shown =>
      have nonempty : shown.toList ≠ [] := by
        intro empty
        rw [String.toList_eq_nil_iff] at empty
        exact h.nonempty (by simp [empty])
      rw [Segment.pieces, join_map_char_append nonempty, later, String.ofList_toList]
      rw [later]
      exact h.not_text_head?
    | placeholder =>
      rw [Segment.pieces, List.singleton_append, join, later]

/-! ### Printing -/

theorem toList_print (segments : List Segment) :
    (print segments).toList = (segments.flatMap Segment.pieces).flatMap Piece.chars := by
  rw [print, String.toList_ofList, List.flatMap_assoc]
  apply List.flatMap_congr
  intro segment _
  cases segment with
  | text shown =>
    rw [Segment.pieces, List.flatMap_map]
    rfl
  | placeholder => rfl

theorem parse_print (h : Separated segments) : parse (print segments) = .ok segments := by
  rw [parse_of_flatMap (toList_print segments).symm, join_flatMap_pieces h]

theorem print_of_parse {format : String} (read : parse format = .ok segments) :
    Separated segments ∧ print segments = format := by
  obtain ⟨found, written⟩ := isFormat_iff.mp (exists_parse_eq_ok_iff.mp ⟨segments, read⟩)
  rw [parse_of_flatMap written] at read
  obtain rfl : join found = segments := Except.ok.inj read
  refine ⟨separated_join found, ?_⟩
  rw [← String.toList_inj, toList_print, flatMap_pieces_join, written]

/-- Reading is a bijection between formats and separated segments, and printing is its inverse. -/
theorem parse_eq_ok_iff_print (format : String) :
    ((∃ segments, parse format = .ok segments) ↔ IsFormat format) ∧
    ∀ segments, parse format = .ok segments ↔ Separated segments ∧ print segments = format := by
  refine ⟨exists_parse_eq_ok_iff, fun segments => ⟨print_of_parse, ?_⟩⟩
  rintro ⟨separated, rfl⟩
  exact parse_print separated

/-- Braces are paired from the left: two for one brace, then a place, then two for another. -/
example : parse "\x7b\x7b\x7b\x7d\x7d\x7d" = .ok [.text "\x7b", .placeholder, .text "\x7d"] := rfl

end Template

end TreeSchema
