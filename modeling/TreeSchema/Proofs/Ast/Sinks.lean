import Mathlib.Order.Bounds.Basic
import TreeSchema.Proofs.Ast.Pieces

/-!
Writing into a sink with a limit. The sink takes pieces while they fit; the first one that does not
ends the writing, also where a later one would fit.
-/

namespace TreeSchema.Ast

variable {parts rest : List String} {piece : String} {count limit wider : Nat} {sink after : Sink}

namespace Sink

def add (sink : Sink) (piece : String) : Sink :=
  { sink with written := sink.written ++ piece }

theorem add_add (sink : Sink) (piece other : String) :
    (sink.add piece).add other = sink.add (piece ++ other) := by
  simp [add, String.append_assoc]

/-- There is room for all of the parts. -/
def Fits (sink : Sink) (parts : List String) : Prop :=
  sink.written.utf8ByteSize + (String.join parts).utf8ByteSize ≤ sink.limit

theorem fits_cons_iff : sink.Fits (piece :: parts) ↔ (sink.add piece).Fits parts := by
  simp [Fits, add, String.join_cons, Nat.add_assoc]

theorem fits_singleton_iff :
    sink.Fits [piece] ↔ sink.written.utf8ByteSize + piece.utf8ByteSize ≤ sink.limit := by
  simp [Fits, String.join_cons]

theorem Fits.of_cons (h : sink.Fits (piece :: parts)) : sink.Fits [piece] := by
  rw [fits_singleton_iff]
  rw [Fits, String.join_cons, String.utf8ByteSize_append] at h
  omega

/-! ### One piece after the other -/

theorem run_write (sink : Sink) (piece : String) :
    (write piece).run.run sink =
      if sink.written.utf8ByteSize + piece.utf8ByteSize ≤ sink.limit then (.ok (), sink.add piece)
      else (.error (), sink) := by
  change (ite (sink.written.utf8ByteSize + piece.utf8ByteSize ≤ sink.limit)
    (set (sink.add piece)) (throw ()) : ExceptT Unit (StateM Sink) Unit).run.run sink = _
  split <;> rfl

theorem run_forM_of_fits (fits : sink.Fits [piece]) :
    (forM (piece :: rest) write).run.run sink = (forM rest write).run.run (sink.add piece) := by
  have step := run_write sink piece
  rw [if_pos (fits_singleton_iff.mp fits)] at step
  rw [List.forM_cons, ExceptT.run_bind, StateT.run_bind, step]
  rfl

theorem run_forM_of_not_fits (full : ¬sink.Fits [piece]) :
    (forM (piece :: rest) write).run.run sink = (.error (), sink) := by
  have step := run_write sink piece
  rw [if_neg (mt fits_singleton_iff.mpr full)] at step
  rw [List.forM_cons, ExceptT.run_bind, StateT.run_bind, step]
  rfl

/-- So many of the parts fit, and no more. -/
def Takes (sink : Sink) (parts : List String) (count : Nat) : Prop :=
  IsGreatest {n | n ≤ parts.length ∧ sink.Fits (parts.take n)} count

theorem takes_nil (room : sink.Fits []) : sink.Takes [] 0 :=
  ⟨⟨Nat.le_refl 0, room⟩, fun _ => And.left⟩

theorem Takes.cons (takes : (sink.add piece).Takes parts count) :
    sink.Takes (piece :: parts) (count + 1) := by
  obtain ⟨⟨inside, fits⟩, greatest⟩ := takes
  refine ⟨⟨Nat.succ_le_succ inside, fits_cons_iff.mpr fits⟩, ?_⟩
  rintro (_ | n) ⟨within, fitsToo⟩
  · exact Nat.zero_le _
  · exact Nat.succ_le_succ (greatest ⟨Nat.le_of_succ_le_succ within, fits_cons_iff.mp fitsToo⟩)

theorem takes_zero (room : sink.Fits []) (full : ¬sink.Fits [piece]) :
    sink.Takes (piece :: parts) 0 := by
  refine ⟨⟨Nat.zero_le _, room⟩, ?_⟩
  rintro (_ | n) ⟨-, fits⟩
  · exact Nat.le_refl 0
  · have fits : sink.Fits (piece :: parts.take n) := fits
    exact absurd fits.of_cons full

/-- Writing parts in order writes as many as fit, and fails if some are left. -/
theorem exists_run_forM (room : sink.Fits []) :
    ∃ count, sink.Takes parts count ∧ (forM parts write).run.run sink =
      (if count = parts.length then .ok () else .error (),
        sink.add (String.join (parts.take count))) := by
  induction parts generalizing sink with
  | nil =>
    refine ⟨0, takes_nil room, ?_⟩
    rw [List.take_nil, String.join_nil, add, String.append_empty]
    rfl
  | cons piece rest ih =>
    by_cases fits : sink.Fits [piece]
    · obtain ⟨count, takes, run⟩ := ih (fits_cons_iff.mp fits)
      refine ⟨count + 1, takes.cons, ?_⟩
      rw [run_forM_of_fits fits, run, add_add, List.take_succ_cons, String.join_cons,
        List.length_cons]
      simp only [Nat.add_right_cancel_iff]
    · refine ⟨0, takes_zero room fits, ?_⟩
      rw [run_forM_of_not_fits fits, if_neg (by simp), List.take_zero, String.join_nil, add,
        String.append_empty]

theorem fits_empty_iff : (Sink.mk limit "").Fits parts ↔
    (String.join parts).utf8ByteSize ≤ limit := by
  simp [Fits]

/-- All parts are taken if and only if there is room for all. -/
theorem Takes.eq_length_iff (takes : sink.Takes parts count) :
    count = parts.length ↔ sink.Fits parts := by
  obtain ⟨⟨inside, fits⟩, greatest⟩ := takes
  constructor
  · rintro rfl
    rwa [List.take_length] at fits
  · intro all
    have most : parts.length ≤ count := greatest ⟨Nat.le_refl _, by rwa [List.take_length]⟩
    exact Nat.le_antisymm inside most

/-- A sink with more room takes at least as many. -/
theorem Takes.le {most : Nat} (takes : (Sink.mk limit "").Takes parts count)
    (takesToo : (Sink.mk wider "").Takes parts most) (le : limit ≤ wider) : count ≤ most := by
  obtain ⟨⟨inside, fits⟩, -⟩ := takes
  refine takesToo.2 ⟨inside, fits_empty_iff.mpr ?_⟩
  exact Nat.le_trans (fits_empty_iff.mp fits) le

end Sink

/-! ### Values -/

variable {α : Type} [Rendered α] {value : α}

/-- A sink of any limit takes the pieces of the value from the first on, up to one that does not
fit. -/
structure FillsInOrder (value : α) : Prop where
  inOrder : IsWrittenBy value (pieces value)
  whole : ∀ limit, (Sink.fill limit value).1 = true ↔ (display value).utf8ByteSize ≤ limit
  longest : ∀ limit, ∃ count, (Sink.mk limit "").Takes (pieces value) count ∧
    (Sink.fill limit value).2 = String.join ((pieces value).take count)
  start : ∀ limit, ∃ rest, (Sink.fill limit value).2 ++ rest = display value
  grows : ∀ limit wider, limit ≤ wider →
    ∃ rest, (Sink.fill limit value).2 ++ rest = (Sink.fill wider value).2

theorem IsWrittenBy.exists_fill (written : IsWrittenBy value parts) (limit : Nat) :
    ∃ count, (Sink.mk limit "").Takes parts count ∧ Sink.fill limit value =
      (decide (count = parts.length), String.join (parts.take count)) := by
  have room : (Sink.mk limit "").Fits [] := Nat.zero_le limit
  obtain ⟨count, takes, run⟩ : ∃ count, (Sink.mk limit "").Takes parts count ∧ _ :=
    Sink.exists_run_forM room
  refine ⟨count, takes, ?_⟩
  unfold Sink.fill
  rw [written.render_eq, List.forM_eq_forM, run]
  by_cases all : count = parts.length <;> simp [all, Sink.add]

theorem exists_join_take {most : Nat} (parts : List String) (le : count ≤ most) :
    ∃ rest, String.join (parts.take count) ++ rest = String.join (parts.take most) := by
  obtain ⟨others, whole⟩ : parts.take count <+: parts.take most := List.take_prefix_take_left le
  exact ⟨String.join others, by rw [← String.join_append, whole]⟩

theorem IsWrittenBy.fillsInOrder (written : IsWrittenBy value parts) : FillsInOrder value := by
  obtain rfl : pieces value = parts := written.pieces_eq
  refine ⟨written, fun limit => ?_, fun limit => ?_, fun limit => ?_, fun limit wider le => ?_⟩
  · obtain ⟨count, takes, fill⟩ := written.exists_fill limit
    rw [fill, decide_eq_true_iff, takes.eq_length_iff, Sink.fits_empty_iff, display]
  · obtain ⟨count, takes, fill⟩ := written.exists_fill limit
    exact ⟨count, takes, by rw [fill]⟩
  · obtain ⟨count, takes, fill⟩ := written.exists_fill limit
    obtain ⟨rest, whole⟩ := exists_join_take (pieces value) takes.1.1
    exact ⟨rest, by rw [fill, display, whole, List.take_length]⟩
  · obtain ⟨count, takes, fill⟩ := written.exists_fill limit
    obtain ⟨most, takesToo, fillToo⟩ := written.exists_fill wider
    rw [fill, fillToo]
    exact exists_join_take (pieces value) (takes.le takesToo le)

/-- Every tree is written piece by piece into a sink, which holds the longest start of the pieces
that it has room for. -/
theorem trees_fillInOrder : (∀ tree : Expr, FillsInOrder tree) ∧
    (∀ tree : Stmt, FillsInOrder tree) ∧ ∀ tree : Calc, FillsInOrder tree :=
  ⟨fun tree => tree.isWrittenBy_pieces.fillsInOrder,
    fun tree => tree.isWrittenBy_pieces.fillsInOrder,
    fun tree => tree.isWrittenBy_pieces.fillsInOrder⟩

end TreeSchema.Ast
