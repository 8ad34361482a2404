import Mathlib.Tactic.SplitIfs
import TreeSchema.Json.StringBody
import TreeSchema.Json.Value

/-!
Strings that were printed. Scanning one stops at its own closing quote, and its body stands for the
text.
-/

namespace TreeSchema.Json

variable {c : Char} {part : Part} {rest : List Char} {start stop n : Nat}

/-- A part that stands for the character by itself. -/
inductive Part.Stands : Part → Char → Prop
  | char (c : Char) : Stands (.char c) c
  | escape (c : Char) : Stands (.escape c) c
  | unit {c : Char} (control : c.toNat < 32) : Stands (.unit c.toNat) c

theorem decodeParts_cons {ending : BodyEnd} {parts : List (Part × Nat)}
    (stands : part.Stands c) :
    decodeParts ending ((part, stop) :: parts) = (decodeParts ending parts).map (c :: ·) := by
  cases stands with
  | char => rfl
  | escape => rfl
  | unit control =>
    have notTrailing : isTrailing c.toNat = false := by
      rw [isTrailing, Bool.and_eq_false_iff, decide_eq_false_iff_not]
      omega
    have notLeading : isLeading c.toNat = false := by
      rw [isLeading, Bool.and_eq_false_iff, decide_eq_false_iff_not]
      omega
    rw [decodeParts.eq_def]
    simp [notTrailing, notLeading]

/-! ### Characters -/

theorem hexValue?_digitChar (small : n < 16) : hexValue? n.digitChar = some n := by
  revert n
  decide

theorem scanBody_digit {value count digit : Nat} (more : count < 3)
    (known : hexValue? c = some digit) :
    scanBody (.hex value count) start (c :: rest) =
      scanBody (.hex (value * 16 + digit) (count + 1)) (start + 1) rest := by
  rw [scanBody]
  simp only [known, if_pos more]

theorem scanBody_lastDigit {value digit : Nat} (known : hexValue? c = some digit) :
    scanBody (.hex value 3) start (c :: rest) =
      let (body, rest) := scanBody .plain (start + 1) rest
      (body.cons (.unit (value * 16 + digit)) (start + 1), rest) := by
  rw [scanBody]
  simp only [known, if_neg (Nat.lt_irrefl 3)]

/-- A control written as four digits is scanned as the unit of its code. -/
theorem scanBody_hex (control : n < 32) :
    scanBody (.hex 0 0) start ('0' :: '0' :: (n / 16).digitChar :: (n % 16).digitChar :: rest) =
      let (body, rest) := scanBody .plain (start + 4) rest
      (body.cons (.unit n) (start + 4), rest) := by
  have zero : hexValue? '0' = some 0 := rfl
  have high : hexValue? (n / 16).digitChar = some (n / 16) := hexValue?_digitChar (by omega)
  have low : hexValue? (n % 16).digitChar = some (n % 16) := hexValue?_digitChar (by omega)
  have value : (((0 * 16 + 0) * 16 + 0) * 16 + n / 16) * 16 + n % 16 = n := by omega
  rw [scanBody_digit (by decide) zero, scanBody_digit (by decide) zero,
    scanBody_digit (by decide) high, scanBody_lastDigit low, value]

theorem scanBody_escapeChar (c : Char) (start : Nat) : ∃ part stop, part.Stands c ∧
    ∀ rest, scanBody .plain start (escapeChar c ++ rest) =
      let (body, rest) := scanBody .plain stop rest
      (body.cons part stop, rest) := by
  unfold escapeChar
  split_ifs with quote backslash backspace feed newline carriage tab control
  · exact ⟨_, start + 2, quote ▸ .escape '"', fun rest => rfl⟩
  · exact ⟨_, start + 2, backslash ▸ .escape '\\', fun rest => rfl⟩
  · exact ⟨_, start + 2, backspace ▸ .escape '\x08', fun rest => rfl⟩
  · exact ⟨_, start + 2, feed ▸ .escape '\x0c', fun rest => rfl⟩
  · exact ⟨_, start + 2, newline ▸ .escape '\n', fun rest => rfl⟩
  · exact ⟨_, start + 2, carriage ▸ .escape '\r', fun rest => rfl⟩
  · exact ⟨_, start + 2, tab ▸ .escape '\t', fun rest => rfl⟩
  · refine ⟨.unit c.toNat, start + 2 + 4, .unit control, fun rest => ?_⟩
    exact scanBody_hex control
  · refine ⟨.char c, start + c.utf8Size, .char c, fun rest => ?_⟩
    rw [List.singleton_append, scanBody, if_neg quote, if_neg backslash, if_neg control]

/-! ### Strings -/

/-- The body of a string that is closed, and what it stands for. -/
def Body.Closes (body : Body) (text : String) : Prop :=
  body.decode = .ok text ∧ ∃ stop, body.ending = .closed stop

theorem scanBody_stringText (text : String) (start : Nat) (rest : List Char) :
    ∃ body, scanBody .plain start (text.toList.flatMap escapeChar ++ '"' :: rest) = (body, rest) ∧
      body.Closes text := by
  have chars : ∀ (list : List Char) (start : Nat), ∃ parts stop,
      scanBody .plain start (list.flatMap escapeChar ++ '"' :: rest) =
        (⟨parts, .closed stop⟩, rest) ∧
      decodeParts (.closed stop) parts = .ok list := by
    intro list
    induction list with
    | nil => exact fun start => ⟨[], start + 1, rfl, rfl⟩
    | cons c list ih =>
      intro start
      obtain ⟨part, after, stands, scanned⟩ := scanBody_escapeChar c start
      obtain ⟨parts, stop, scannedRest, decoded⟩ := ih after
      refine ⟨(part, after) :: parts, stop, ?_, ?_⟩
      · rw [List.flatMap_cons, List.append_assoc, scanned, scannedRest]
        rfl
      · rw [decodeParts_cons stands, decoded]
        rfl
  obtain ⟨parts, stop, scanned, decoded⟩ := chars text.toList start
  refine ⟨⟨parts, .closed stop⟩, scanned, ?_, stop, rfl⟩
  rw [Body.decode, decoded]
  simp [Except.map]

end TreeSchema.Json
