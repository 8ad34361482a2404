import Mathlib.Data.List.TakeWhile
import TreeSchema.Proofs.Json.Grammar

/-!
Scanning of numbers. A number is scanned as it is written if nothing after it goes on with it, and
what is scanned without a fault is written like that.
-/

namespace TreeSchema.Json

variable {c : Char} {text rest chars : List Char} {start stop : Nat} {numeral : Numeral}
  {lexeme : Lexeme} {mark : Mark}

/-- What a lexeme is without places, unless it is at fault. -/
def Lexeme.mark? : Lexeme → Option Mark
  | .openList => some .openList
  | .closeList => some .closeList
  | .openObject => some .openObject
  | .closeObject => some .closeObject
  | .comma => some .comma
  | .colon => some .colon
  | .word w => some (.word w)
  | .numeral n => some (.numeral n)
  | .string body =>
    match body.ending with
    | .closed _ => some (.string (body.parts.map (·.1)))
    | _ => none
  | .brokenWord _ | .brokenNumeral _ | .stray => none

theorem Lexeme.isSound_iff : lexeme.isSound = true ↔ ∃ mark, lexeme.mark? = some mark := by
  cases lexeme with
  | string body =>
    obtain ⟨parts, ending⟩ := body
    cases ending <;> simp [isSound, mark?, BodyEnd.fault?]
  | _ => simp [isSound, mark?]

/-! ### Digits -/

/-- Whether a number that ends before the character would not end there. -/
def continuesNumber (c : Char) : Bool :=
  c.isDigit || c == '.' || c == 'e' || c == 'E'

/-- A number may end before the text. -/
def EndsNumber (text : List Char) : Prop :=
  ∀ c ∈ text.head?, continuesNumber c = false

theorem EndsNumber.noDigit (ends : EndsNumber text) : ∀ c ∈ text.head?, c.isDigit = false := by
  intro c first
  have other := ends c first
  simp only [continuesNumber, Bool.or_eq_false_iff] at other
  exact other.1.1.1

theorem digits_append (all : ∀ c ∈ chars, c.isDigit = true)
    (ends : ∀ c ∈ rest.head?, c.isDigit = false) :
    digits (chars ++ rest) = chars ∧ afterDigits (chars ++ rest) = rest := by
  rw [digits, afterDigits, List.takeWhile_append_of_pos all, List.dropWhile_append_of_pos all]
  cases rest with
  | nil => simp
  | cons c rest => simp [ends c rfl]

theorem digits_append_afterDigits (text : List Char) : digits text ++ afterDigits text = text :=
  List.takeWhile_append_dropWhile

theorem areDigits_digits (first : c.isDigit = true) (text : List Char) :
    AreDigits (c :: digits text) :=
  ⟨nofun, List.forall_mem_cons.mpr ⟨first, fun _ => List.mem_takeWhile_imp⟩⟩

theorem scanExponentDigits_of_written {exponent : List Char} (written : AreDigits exponent)
    (ends : EndsNumber rest) (negative : Bool) (start : Nat) :
    ∃ stop, scanExponentDigits numeral negative start (exponent ++ rest) =
      (.numeral { numeral with exponent := some (negative, exponent) }, stop, rest) := by
  obtain ⟨nonempty, all⟩ := written
  cases exponent with
  | nil => exact absurd rfl nonempty
  | cons c others =>
    obtain ⟨first, all⟩ := List.forall_mem_cons.mp all
    obtain ⟨taken, left⟩ := digits_append all ends.noDigit
    refine ⟨start + (c :: others).length, ?_⟩
    rw [List.cons_append, scanExponentDigits, if_pos first, taken, left]

theorem written_of_scanExponentDigits {negative : Bool}
    (scanned : scanExponentDigits numeral negative start text = (lexeme, stop, rest))
    (sound : lexeme.mark? = some mark) :
    ∃ exponent, AreDigits exponent ∧ text = exponent ++ rest ∧
      lexeme = .numeral { numeral with exponent := some (negative, exponent) } := by
  cases text with
  | nil =>
    cases scanned
    cases sound
  | cons c text =>
    rw [scanExponentDigits] at scanned
    split at scanned
    next first =>
      cases scanned
      refine ⟨_, areDigits_digits first text, ?_, rfl⟩
      rw [List.cons_append, digits_append_afterDigits]
    next =>
      cases scanned
      cases sound

theorem AreDigits.ne_cons {digits : List Char} (areDigits : AreDigits digits)
    (other : c.isDigit = false) (rest tail : List Char) : digits ++ rest ≠ c :: tail := by
  obtain ⟨nonempty, all⟩ := areDigits
  cases digits with
  | nil => exact absurd rfl nonempty
  | cons first others =>
    intro same
    obtain ⟨rfl, -⟩ := List.cons.inj same
    exact absurd (all first List.mem_cons_self) (by simp [other])

theorem scanExponent_of_written {exponent : Option (Bool × List Char)}
    (written : ExponentWritten exponent chars) (ends : EndsNumber rest) (negative : Bool)
    (whole : List Char) (fraction : Option (List Char)) (start : Nat) :
    ∃ stop, scanExponent ⟨negative, whole, fraction, none⟩ start (chars ++ rest) =
      (.numeral ⟨negative, whole, fraction, exponent⟩, stop, rest) := by
  cases written with
  | none =>
    refine ⟨start, ?_⟩
    cases rest with
    | nil => rfl
    | cons c rest =>
      have other := ends c rfl
      simp only [continuesNumber, Bool.or_eq_false_iff, beq_eq_false_iff_ne] at other
      unfold scanExponent
      exact if_neg (not_or.mpr ⟨other.1.2, other.2⟩)
  | @some letter minus sign digits isLetter signed areDigits =>
    have scanned (start : Nat) : ∃ stop, scanExponentDigits ⟨negative, whole, fraction, none⟩
        minus start (digits ++ rest) =
          (.numeral ⟨negative, whole, fraction, some (minus, digits)⟩, stop, rest) :=
      scanExponentDigits_of_written areDigits ends minus start
    cases signed with
    | plus | minus =>
      obtain ⟨stop, scanned⟩ := scanned (start + 2)
      refine ⟨stop, ?_⟩
      rw [← scanned]
      unfold scanExponent
      exact if_pos isLetter
    | none =>
      obtain ⟨stop, scanned⟩ := scanned (start + 1)
      refine ⟨stop, ?_⟩
      rw [List.singleton_append, List.cons_append, scanExponent, if_pos isLetter, scanned]
      · exact areDigits.ne_cons rfl rest
      · exact areDigits.ne_cons rfl rest

theorem written_of_scanExponent {negative : Bool} {whole : List Char}
    {fraction : Option (List Char)}
    (scanned : scanExponent ⟨negative, whole, fraction, none⟩ start text = (lexeme, stop, rest))
    (sound : lexeme.mark? = some mark) :
    ∃ chars exponent, ExponentWritten exponent chars ∧ text = chars ++ rest ∧
      lexeme = .numeral ⟨negative, whole, fraction, exponent⟩ := by
  unfold scanExponent at scanned
  split at scanned
  next =>
    cases scanned
    exact ⟨[], none, .none, rfl, rfl⟩
  next c text =>
    split at scanned
    next isLetter =>
      split at scanned
      next text =>
        obtain ⟨digits, areDigits, rfl, rfl⟩ := written_of_scanExponentDigits scanned sound
        exact ⟨_, _, .some isLetter .plus areDigits, rfl, rfl⟩
      next text =>
        obtain ⟨digits, areDigits, rfl, rfl⟩ := written_of_scanExponentDigits scanned sound
        exact ⟨_, _, .some isLetter .minus areDigits, rfl, rfl⟩
      next =>
        obtain ⟨digits, areDigits, rfl, rfl⟩ := written_of_scanExponentDigits scanned sound
        exact ⟨_, _, .some isLetter .none areDigits, rfl, rfl⟩
    next =>
      cases scanned
      exact ⟨[], none, .none, rfl, rfl⟩

theorem scanFraction_of_written {fraction : Option (List Char)}
    {exponent : Option (Bool × List Char)} {tail : List Char}
    (written : FractionWritten fraction chars) (scaled : ExponentWritten exponent tail)
    (ends : EndsNumber rest) (negative : Bool) (whole : List Char) (start : Nat) :
    ∃ stop, scanFraction ⟨negative, whole, none, none⟩ start (chars ++ (tail ++ rest)) =
      (.numeral ⟨negative, whole, fraction, exponent⟩, stop, rest) := by
  have noPoint : ∀ c ∈ (tail ++ rest).head?, c.isDigit = false ∧ c ≠ '.' := by
    intro c first
    cases scaled with
    | none =>
      have other := ends c first
      simp only [continuesNumber, Bool.or_eq_false_iff, beq_eq_false_iff_ne] at other
      exact other.1.1
    | some isLetter =>
      obtain rfl := Option.some.inj first
      rcases isLetter with rfl | rfl <;> decide
  cases written with
  | none =>
    obtain ⟨stop, scanned⟩ := scanExponent_of_written scaled ends negative whole none start
    refine ⟨stop, ?_⟩
    rw [List.nil_append]
    cases after : tail ++ rest with
    | nil =>
      rw [after] at scanned
      exact scanned
    | cons c others =>
      rw [after] at scanned
      rw [scanFraction, if_neg (noPoint c (by rw [after]; rfl)).2, scanned]
  | @some places areDigits =>
    obtain ⟨stop, scanned⟩ := scanExponent_of_written scaled ends negative whole (some places)
      (start + 1 + places.length)
    refine ⟨stop, ?_⟩
    obtain ⟨taken, left⟩ := digits_append areDigits.2 fun c first => (noPoint c first).1
    rw [List.cons_append, scanFraction, if_pos rfl, taken, left]
    cases places with
    | nil => exact absurd rfl areDigits.1
    | cons => exact scanned

theorem written_of_scanFraction {negative : Bool} {whole : List Char}
    (scanned : scanFraction ⟨negative, whole, none, none⟩ start text = (lexeme, stop, rest))
    (sound : lexeme.mark? = some mark) :
    ∃ chars tail fraction exponent, FractionWritten fraction chars ∧
      ExponentWritten exponent tail ∧ text = chars ++ tail ++ rest ∧
      lexeme = .numeral ⟨negative, whole, fraction, exponent⟩ := by
  unfold scanFraction at scanned
  split at scanned
  next =>
    cases scanned
    exact ⟨[], [], none, none, .none, .none, rfl, rfl⟩
  next c text =>
    split at scanned
    next isPoint =>
      subst isPoint
      split at scanned
      next =>
        cases scanned
        cases sound
      next =>
        cases scanned
        cases sound
      next nonempty _ =>
        obtain ⟨tail, exponent, scaled, same, rfl⟩ := written_of_scanExponent scanned sound
        refine ⟨_, tail, _, exponent, .some ⟨nonempty, fun c => List.mem_takeWhile_imp⟩, scaled, ?_,
          rfl⟩
        rw [List.cons_append, List.cons_append, List.append_assoc, ← same]
        exact congrArg ('.' :: ·) (digits_append_afterDigits text).symm
    next =>
      obtain ⟨tail, exponent, scaled, same, rfl⟩ := written_of_scanExponent scanned sound
      exact ⟨[], tail, none, exponent, .none, scaled, same, rfl⟩

theorem scanNumeral_of_written {whole tail : List Char} {fraction : Option (List Char)}
    {exponent : Option (Bool × List Char)} (areDigits : AreDigits whole)
    (zero : whole.head? = some '0' → whole = ['0']) (written : FractionWritten fraction chars)
    (scaled : ExponentWritten exponent tail) (ends : EndsNumber rest) (negative : Bool)
    (start : Nat) :
    ∃ stop, scanNumeral negative start (whole ++ chars ++ tail ++ rest) =
      (.numeral ⟨negative, whole, fraction, exponent⟩, stop, rest) := by
  have noDigit : ∀ c ∈ (chars ++ (tail ++ rest)).head?, c.isDigit = false := by
    intro c first
    cases written with
    | some =>
      obtain rfl := Option.some.inj first
      rfl
    | none =>
      cases scaled with
      | none => exact ends.noDigit c first
      | some isLetter =>
        obtain rfl := Option.some.inj first
        rcases isLetter with rfl | rfl <;> rfl
  obtain ⟨nonempty, all⟩ := areDigits
  cases whole with
  | nil => exact absurd rfl nonempty
  | cons c others =>
    obtain ⟨first, all⟩ := List.forall_mem_cons.mp all
    rw [List.append_assoc, List.append_assoc, List.cons_append, scanNumeral]
    by_cases isZero : c = '0'
    · subst isZero
      obtain rfl : others = [] := (List.cons.inj (zero rfl)).2
      have single : ((chars ++ (tail ++ rest)).head?.any Char.isDigit) = false := by
        cases head : (chars ++ (tail ++ rest)).head? with
        | none => rfl
        | some c => exact noDigit c head
      rw [if_pos rfl, List.nil_append, single, if_neg Bool.false_ne_true]
      exact scanFraction_of_written written scaled ends negative _ _
    · obtain ⟨taken, left⟩ := digits_append all noDigit
      rw [if_neg isZero, if_pos first, taken, left]
      exact scanFraction_of_written written scaled ends negative _ _

theorem written_of_scanNumeral {negative : Bool}
    (scanned : scanNumeral negative start text = (lexeme, stop, rest))
    (sound : lexeme.mark? = some mark) :
    ∃ chars numeral, text = chars ++ rest ∧ lexeme = .numeral numeral ∧
      numeral.Written ((if negative then ['-'] else []) ++ chars) := by
  unfold scanNumeral at scanned
  split at scanned
  next =>
    cases scanned
    cases sound
  next c text =>
    split at scanned
    next isZero =>
      subst isZero
      split at scanned
      next =>
        cases scanned
        cases sound
      next =>
        obtain ⟨chars, tail, fraction, exponent, written, scaled, rfl, rfl⟩ :=
          written_of_scanFraction scanned sound
        refine ⟨'0' :: (chars ++ tail), _, rfl, rfl, ⟨nofun, ?_⟩, fun _ => rfl, chars, tail,
          written, scaled, by simp⟩
        simp
    next notZero =>
      split at scanned
      next first =>
        obtain ⟨chars, tail, fraction, exponent, written, scaled, same, rfl⟩ :=
          written_of_scanFraction scanned sound
        refine ⟨c :: digits text ++ (chars ++ tail), _, ?_, rfl, areDigits_digits first text, ?_,
          chars, tail, written, scaled, by simp⟩
        · rw [List.append_assoc, ← same, List.cons_append, digits_append_afterDigits]
        · intro head
          exact absurd (Option.some.inj head) notZero
      next =>
        cases scanned
        cases sound

end TreeSchema.Json
