import TreeSchema.Proofs.Render.Running
import TreeSchema.Proofs.Template.Grammar

/-!
A template that parses is read in the same way as a format string, and writing it fills it.
-/

namespace TreeSchema

open Source

variable {offset : Nat} {c : Char} {chars rest : List Char} {pieces : List Template.Piece}
  {args : List String}

theorem map_eq_ok_iff {fault α β : Type} {answer : Except fault α} {f : α → β} {b : β} :
    answer.map f = .ok b ↔ ∃ a, answer = .ok a ∧ f a = b := by
  cases answer <;> simp [Except.map]

/-! ### Reading -/

theorem Source.formatPieces?_cons_char (opens : c ≠ '{') (closes : c ≠ '}') :
    formatPieces? (c :: rest) = (formatPieces? rest).map (.char c :: ·) := by
  cases rest with
  | nil => simp [formatPieces?, opens, closes]
  | cons d rest => rw [formatPieces?, if_neg opens, if_neg closes]

/-- A template is a format string in which braces take no names. -/
theorem Source.formatPieces?_of_pieces (parsed : Template.pieces offset chars = .ok pieces) :
    formatPieces? chars = some pieces := by
  fun_induction Template.pieces generalizing pieces with
  | case1 =>
    cases parsed
    rfl
  | case2 offset rest ih | case3 offset rest ih | case4 offset rest ih =>
    obtain ⟨others, read, rfl⟩ := map_eq_ok_iff.mp parsed
    simp [formatPieces?, ih read]
  | case5 | case6 => cases parsed
  | case7 offset c rest _ _ _ opens closes ih =>
    obtain ⟨others, read, rfl⟩ := map_eq_ok_iff.mp parsed
    rw [formatPieces?_cons_char opens closes, ih read, Option.map_some]

/-! ### Filling -/

namespace Template

theorem fill_cons_char (opens : c ≠ '{') (closes : c ≠ '}') :
    fill (c :: rest) args = (fill rest args).map (c :: ·) := by
  conv_lhs => unfold fill
  split <;> simp_all

theorem fill_eq_writePieces? (read : formatPieces? chars = some pieces) :
    fill chars args = writePieces? pieces args := by
  fun_induction formatPieces? generalizing pieces args with
  | case1 =>
    obtain rfl := Option.some.inj read
    cases args <;> rfl
  | case3 c other =>
    obtain ⟨opens, closes⟩ := not_or.mp other
    obtain rfl := Option.some.inj read
    rw [fill_cons_char opens closes]
    cases args <;> rfl
  | case4 rest ih | case7 rest _ ih =>
    obtain ⟨others, same, rfl⟩ := Option.map_eq_some_iff.mp read
    rw [fill, writePieces?, ih same]
  | case5 rest _ ih =>
    obtain ⟨others, same, rfl⟩ := Option.map_eq_some_iff.mp read
    cases args with
    | nil => simp [fill, writePieces?]
    | cons arg args => rw [fill, writePieces?, ih same]
  | case2 | case6 | case8 => cases read
  | case9 c d rest opens closes ih =>
    obtain ⟨others, same, rfl⟩ := Option.map_eq_some_iff.mp read
    rw [fill_cons_char opens closes, writePieces?, ih same]

/-! ### Joined pieces -/

theorem placeholders_consChar {segments : List Segment} :
    placeholders (consChar c segments) = placeholders segments := by
  unfold consChar
  split <;> simp [placeholders]

theorem placeholders_join : placeholders (join pieces) = pieces.count .placeholder := by
  induction pieces with
  | nil => rfl
  | cons piece rest ih =>
    cases piece with
    | char c => rw [join, placeholders_consChar, ih, List.count_cons_of_ne (by simp)]
    | placeholder =>
      rw [List.count_cons_self, ← ih]
      simp [join, placeholders]

theorem text_consChar {segments : List Segment} :
    (text (consChar c segments)).toList = c :: (text segments).toList := by
  unfold consChar
  split <;> simp [text, String.join_cons]

theorem exists_writePieces? (fits : pieces.count .placeholder = args.length) :
    ∃ written, writePieces? pieces args = some written := by
  induction pieces generalizing args with
  | nil =>
    obtain rfl := List.length_eq_zero_iff.mp fits.symm
    exact ⟨[], rfl⟩
  | cons piece rest ih =>
    cases piece with
    | char c =>
      have fits : rest.count .placeholder = args.length := by simpa using fits
      obtain ⟨written, run⟩ := ih fits
      exact ⟨c :: written, by rw [writePieces?, run, Option.map_some]⟩
    | placeholder =>
      cases args with
      | nil => simp at fits
      | cons arg args =>
        have fits : rest.count .placeholder = args.length := by simpa using fits
        obtain ⟨written, run⟩ := ih fits
        exact ⟨arg.toList ++ written, by rw [writePieces?, run, Option.map_some]⟩

/-- Without places the text is all that is written. -/
theorem writePieces?_nil (none : pieces.count .placeholder = 0) :
    writePieces? pieces [] = some (text (join pieces)).toList := by
  induction pieces with
  | nil => rfl
  | cons piece rest ih =>
    cases piece with
    | char c =>
      rw [writePieces?, ih (by simpa using none), join, text_consChar, Option.map_some]
    | placeholder => simp at none

end Template

end TreeSchema
