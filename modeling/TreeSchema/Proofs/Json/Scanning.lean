import TreeSchema.Proofs.Json.Numerals
import TreeSchema.Proofs.Json.Strings

/-!
The scanner finds the marks in every text that lays them out, and in no other.
-/

namespace TreeSchema.Json

theorem intercalate_cons {α : Type} (separator : α) (first : List α) (rest : List (List α)) :
    [separator].intercalate (first :: rest) = first ++ rest.flatMap (separator :: ·) := by
  induction rest generalizing first with
  | nil => simp
  | cons next rest ih =>
    rw [List.intercalate_cons_cons, ih]
    simp

variable {c : Char} {text rest chars : List Char} {start stop value : Nat} {numeral : Numeral}
  {lexeme : Lexeme} {parts : List Part} {mark : Mark} {marks : List Mark}

/-! ### Strings -/

theorem scanBody_hexDigits {digits : List Char} (hex : HexWritten value digits)
    (few : digits.length ≤ 3) (start : Nat) (rest : List Char) :
    scanBody (.hex 0 0) start (digits ++ rest) =
      scanBody (.hex value digits.length) (start + digits.length) rest := by
  induction hex generalizing rest with
  | nil => rfl
  | @snoc value digit digits c front known ih =>
    rw [List.length_append, List.length_singleton] at few ⊢
    rw [List.append_assoc, List.singleton_append, ih (by omega),
      scanBody_digit (by omega) known, Nat.add_assoc]

theorem scanBody_part {part : Part} (written : part.Written chars) (start : Nat)
    (rest : List Char) : ∃ stop, scanBody .plain start (chars ++ rest) =
      let (body, rest) := scanBody .plain stop rest
      (body.cons part stop, rest) := by
  cases written with
  | @char c quote backslash printable =>
    refine ⟨start + c.utf8Size, ?_⟩
    rw [List.singleton_append, scanBody, if_neg quote, if_neg backslash, if_neg printable]
  | @escape letter c known =>
    have notUnit : letter ≠ 'u' := by
      rintro rfl
      cases known
    refine ⟨start + 1 + 1, ?_⟩
    rw [List.cons_append, List.singleton_append, scanBody, if_neg (by decide), if_pos rfl, scanBody,
      if_neg notUnit]
    simp only [known]
  | @unit value digits hex four =>
    cases hex with
    | nil => cases four
    | @snoc value digit digits c front known =>
      have three : digits.length = 3 := by simpa using four
      have opened : scanBody .plain start ('\\' :: 'u' :: (digits ++ (c :: rest))) =
          scanBody (.hex 0 0) (start + 2) (digits ++ (c :: rest)) := rfl
      refine ⟨start + 2 + 3 + 1, ?_⟩
      rw [List.cons_append, List.cons_append, List.append_assoc, List.singleton_append, opened,
        scanBody_hexDigits front (by omega), three, scanBody_lastDigit known]

/-- The body of a string is scanned up to its closing quote. -/
theorem scanBody_of_written (written : PartsWritten parts chars) (start : Nat) (rest : List Char) :
    ∃ body stop, scanBody .plain start (chars ++ '"' :: rest) = (body, rest) ∧
      body.parts.map (·.1) = parts ∧ body.ending = .closed stop := by
  induction written generalizing start with
  | nil => exact ⟨⟨[], .closed (start + 1)⟩, start + 1, rfl, rfl, rfl⟩
  | @cons part parts chars others first _ ih =>
    obtain ⟨after, scanned⟩ := scanBody_part first start (others ++ '"' :: rest)
    obtain ⟨body, stop, scannedRest, same, closed⟩ := ih after
    refine ⟨body.cons part after, stop, ?_, ?_, closed⟩
    · rw [List.append_assoc, scanned, scannedRest]
    · rw [Body.cons, List.map_cons, same]

/-- What has been read of a part in a state of the scan. -/
inductive ScanState.Read : ScanState → List Char → Prop
  | plain : Read .plain []
  | escape : Read .escape ['\\']
  | hex {value : Nat} {digits : List Char} (hex : HexWritten value digits)
    (few : digits.length ≤ 3) : Read (.hex value digits.length) ('\\' :: 'u' :: digits)

/-- A body that is closed was written. -/
theorem written_of_scanBody {state : ScanState} {before : List Char} {body : Body}
    (read : state.Read before) (scanned : scanBody state start text = (body, rest))
    (closed : body.ending = .closed stop) :
    ∃ chars, PartsWritten (body.parts.map (·.1)) chars ∧
      before ++ text = chars ++ '"' :: rest := by
  fun_induction scanBody generalizing body before with
  | case1 => cases scanned; cases closed
  | case2 start text =>
    cases read
    cases scanned
    exact ⟨[], .nil, rfl⟩
  | case3 start text _ ih =>
    cases read
    exact ih .escape scanned closed
  | case4 => cases scanned; cases closed
  | case5 start c text quote backslash printable body others inner ih =>
    cases read
    cases scanned
    obtain ⟨chars, written, same⟩ := ih .plain inner closed
    refine ⟨c :: chars, .cons (.char quote backslash printable) written, ?_⟩
    rw [List.nil_append] at same
    rw [same]
    rfl
  | case6 start text ih =>
    cases read
    exact ih (.hex .nil (by decide)) scanned closed
  | case7 => cases scanned; cases closed
  | case8 start letter text notUnit c known body others inner ih =>
    cases read
    cases scanned
    obtain ⟨chars, written, same⟩ := ih .plain inner closed
    refine ⟨['\\', letter] ++ chars, .cons (.escape known) written, ?_⟩
    rw [List.nil_append] at same
    rw [same]
    rfl
  | case9 => cases scanned; cases closed
  | case10 => cases scanned; cases closed
  | case11 value count start c text digit known _ more =>
    rename_i ih
    cases read with
    | @hex _ digits hex few =>
      have longer := ScanState.Read.hex (.snoc hex known) (by simp; omega)
      rw [List.length_append, List.length_singleton] at longer
      obtain ⟨chars, written, same⟩ := ih longer scanned closed
      refine ⟨chars, written, ?_⟩
      rw [← same]
      simp
  | case12 value count start c text digit known _ last body others inner =>
    rename_i ih
    cases read with
    | @hex _ digits hex few =>
      cases scanned
      obtain ⟨chars, written, same⟩ := ih .plain inner closed
      have four : (digits ++ [c]).length = 4 := by
        rw [List.length_append, List.length_singleton]
        omega
      refine ⟨_, .cons (.unit (.snoc hex known) four) written, ?_⟩
      rw [List.nil_append] at same
      rw [same]
      simp

/-! ### Tokens -/

theorem scanWord_append (word : Word) (start : Nat) (chars rest : List Char) :
    ∃ stop, scanWord word start chars (chars ++ rest) = (.word word, stop, rest) := by
  induction chars generalizing start with
  | nil => exact ⟨start, rfl⟩
  | cons c chars ih =>
    obtain ⟨stop, scanned⟩ := ih (start + 1)
    exact ⟨stop, by rw [List.cons_append, scanWord, if_pos rfl, scanned]⟩

theorem append_of_scanWord {word : Word} {expected : List Char}
    (scanned : scanWord word start expected text = (lexeme, stop, rest))
    (sound : lexeme.mark? = some mark) : text = expected ++ rest ∧ lexeme = .word word := by
  fun_induction scanWord with
  | case1 =>
    cases scanned
    exact ⟨rfl, rfl⟩
  | case3 start expected c rest ih =>
    obtain ⟨same, known⟩ := ih scanned
    exact ⟨congrArg (c :: ·) same, known⟩
  | case2 | case4 =>
    cases scanned
    cases sound

theorem ne_of_isDigit {d : Char} (digit : c.isDigit = true) (other : d.isDigit = false) :
    c ≠ d := by
  rintro rfl
  exact absurd digit (by simp [other])

theorem isSpace_of_isDigit (digit : c.isDigit = true) : isSpace c = false := by
  have other (d : Char) (noDigit : d.isDigit = false) : (c == d) = false :=
    beq_eq_false_iff_ne.mpr (ne_of_isDigit digit noDigit)
  rw [isSpace, other ' ' rfl, other '\t' rfl, other '\n' rfl, other '\r' rfl]
  rfl

theorem scanToken_digit (digit : c.isDigit = true) (start : Nat) (rest : List Char) :
    scanToken start c rest = scanNumeral false start (c :: rest) := by
  rw [scanToken, if_neg (ne_of_isDigit digit rfl), if_neg (ne_of_isDigit digit rfl),
    if_neg (ne_of_isDigit digit rfl), if_neg (ne_of_isDigit digit rfl),
    if_neg (ne_of_isDigit digit rfl), if_neg (ne_of_isDigit digit rfl),
    if_neg (ne_of_isDigit digit rfl), if_neg (ne_of_isDigit digit rfl), if_pos digit]

/-- The mark's text starts a token that ends before the rest. -/
def Mark.Scans (mark : Mark) (text rest : List Char) : Prop :=
  ∃ c chars, text = c :: chars ∧ isSpace c = false ∧ ∀ start, ∃ lexeme stop,
    scanToken start c (chars ++ rest) = (lexeme, stop, rest) ∧ lexeme.mark? = some mark

theorem scans_numeral (written : numeral.Written text) (ends : EndsNumber rest) :
    (Mark.numeral numeral).Scans text rest := by
  obtain ⟨negative, whole, fraction, exponent⟩ := numeral
  obtain ⟨areDigits, zero, chars, tail, writtenFraction, scaled, rfl⟩ := written
  have scanned (start : Nat) := scanNumeral_of_written areDigits zero writtenFraction scaled ends
    negative start
  cases negative with
  | true =>
    refine ⟨'-', whole ++ chars ++ tail, by simp, rfl, fun start => ?_⟩
    obtain ⟨stop, scanned⟩ := scanned (start + 1)
    exact ⟨_, stop, scanned, rfl⟩
  | false =>
    cases whole with
    | nil => exact absurd rfl areDigits.1
    | cons c others =>
      have digit : c.isDigit = true := areDigits.2 c List.mem_cons_self
      refine ⟨c, others ++ chars ++ tail, by simp, isSpace_of_isDigit digit, fun start => ?_⟩
      obtain ⟨stop, scanned⟩ := scanned start
      exact ⟨_, stop, (scanToken_digit digit start _).trans scanned, rfl⟩

theorem scans_word (word : Word) (rest : List Char) : (Mark.word word).Scans word.chars rest := by
  cases word with
  | null =>
    refine ⟨'n', ['u', 'l', 'l'], rfl, rfl, fun start => ?_⟩
    obtain ⟨stop, scanned⟩ := scanWord_append .null (start + 1) ['u', 'l', 'l'] rest
    exact ⟨_, stop, scanned, rfl⟩
  | true =>
    refine ⟨'t', ['r', 'u', 'e'], rfl, rfl, fun start => ?_⟩
    obtain ⟨stop, scanned⟩ := scanWord_append .true (start + 1) ['r', 'u', 'e'] rest
    exact ⟨_, stop, scanned, rfl⟩
  | false =>
    refine ⟨'f', ['a', 'l', 's', 'e'], rfl, rfl, fun start => ?_⟩
    obtain ⟨stop, scanned⟩ := scanWord_append .false (start + 1) ['a', 'l', 's', 'e'] rest
    exact ⟨_, stop, scanned, rfl⟩

theorem scans_parts (written : PartsWritten parts text) (rest : List Char) :
    (Mark.string parts).Scans ('"' :: text ++ ['"']) rest := by
  refine ⟨'"', text ++ ['"'], rfl, rfl, fun start => ?_⟩
  obtain ⟨body, stop, scanned, same, closed⟩ := scanBody_of_written written (start + 1) rest
  have token : scanToken start '"' (text ++ ['"'] ++ rest) =
      scanString (start + 1) (text ++ '"' :: rest) := by
    rw [List.append_assoc]
    rfl
  refine ⟨.string body, stop, ?_, ?_⟩
  · rw [token, scanString, scanned]
    simp only [closed]
  · rw [Lexeme.mark?, closed, same]

theorem Mark.Written.scans (written : mark.Written text)
    (ends : ∀ numeral, mark = .numeral numeral → EndsNumber rest) : mark.Scans text rest := by
  cases written with
  | openList | closeList | openObject | closeObject | comma | colon =>
    exact ⟨_, [], rfl, rfl, fun start => ⟨_, start + 1, rfl, rfl⟩⟩
  | word word => exact scans_word word rest
  | numeral written => exact scans_numeral written (ends _ rfl)
  | string written => exact scans_parts written rest

theorem written_of_scanString (scanned : scanString start text = (lexeme, stop, rest))
    (sound : lexeme.mark? = some mark) :
    ∃ chars, mark.Written ('"' :: chars) ∧ text = chars ++ rest := by
  unfold scanString at scanned
  cases whole : scanBody .plain start text with
  | mk body after =>
    rw [whole] at scanned
    obtain ⟨rfl, -, rfl⟩ := scanned
    rw [Lexeme.mark?] at sound
    split at sound
    next stop closed =>
      obtain rfl := Option.some.inj sound
      obtain ⟨chars, written, rfl⟩ := written_of_scanBody .plain whole closed
      exact ⟨chars ++ ['"'], .string written, by simp⟩
    next => cases sound

theorem Numeral.Written.ne_nil (written : numeral.Written text) : text ≠ [] := by
  obtain ⟨fraction, exponent, -, -, rfl⟩ := written.parts
  simp [written.digits.1]

/-- A token that is no fault is a mark, written as it stands. -/
theorem written_of_scanToken (scanned : scanToken start c text = (lexeme, stop, rest))
    (sound : lexeme.mark? = some mark) :
    ∃ chars, mark.Written (c :: chars) ∧ text = chars ++ rest := by
  have single {found : Lexeme} {known : Mark} (marked : found.mark? = some known)
      (written : known.Written [c]) (scanned : (found, start + 1, text) = (lexeme, stop, rest)) :
      ∃ chars, mark.Written (c :: chars) ∧ text = chars ++ rest := by
    cases scanned
    obtain rfl := Option.some.inj (marked.symm.trans sound)
    exact ⟨[], written, rfl⟩
  have whole (word : Word) (expected : List Char) (first : c :: expected = word.chars)
      (scanned : scanWord word (start + 1) expected text = (lexeme, stop, rest)) :
      ∃ chars, mark.Written (c :: chars) ∧ text = chars ++ rest := by
    obtain ⟨same, rfl⟩ := append_of_scanWord scanned sound
    obtain rfl := Option.some.inj sound
    exact ⟨expected, first ▸ .word word, same⟩
  unfold scanToken at scanned
  by_cases same : c = '['
  · rw [if_pos same] at scanned
    exact single rfl (same ▸ .openList) scanned
  rw [if_neg same] at scanned
  by_cases same : c = ']'
  · rw [if_pos same] at scanned
    exact single rfl (same ▸ .closeList) scanned
  rw [if_neg same] at scanned
  by_cases same : c = '{'
  · rw [if_pos same] at scanned
    exact single rfl (same ▸ .openObject) scanned
  rw [if_neg same] at scanned
  by_cases same : c = '}'
  · rw [if_pos same] at scanned
    exact single rfl (same ▸ .closeObject) scanned
  rw [if_neg same] at scanned
  by_cases same : c = ','
  · rw [if_pos same] at scanned
    exact single rfl (same ▸ .comma) scanned
  rw [if_neg same] at scanned
  by_cases same : c = ':'
  · rw [if_pos same] at scanned
    exact single rfl (same ▸ .colon) scanned
  rw [if_neg same] at scanned
  by_cases same : c = '"'
  · rw [if_pos same] at scanned
    exact same ▸ written_of_scanString scanned sound
  rw [if_neg same] at scanned
  by_cases same : c = '-'
  · rw [if_pos same] at scanned
    obtain ⟨chars, numeral, front, rfl, written⟩ := written_of_scanNumeral scanned sound
    obtain rfl := Option.some.inj sound
    exact ⟨chars, same ▸ .numeral written, front⟩
  rw [if_neg same] at scanned
  by_cases digit : c.isDigit = true
  · rw [if_pos digit] at scanned
    obtain ⟨chars, numeral, front, rfl, written⟩ := written_of_scanNumeral scanned sound
    obtain rfl := Option.some.inj sound
    cases chars with
    | nil => exact absurd rfl written.ne_nil
    | cons first chars =>
      obtain ⟨rfl, tail⟩ := List.cons.inj front
      exact ⟨chars, .numeral written, tail⟩
  rw [if_neg digit] at scanned
  by_cases same : c = 'n'
  · rw [if_pos same] at scanned
    exact whole .null _ (same ▸ rfl) scanned
  rw [if_neg same] at scanned
  by_cases same : c = 't'
  · rw [if_pos same] at scanned
    exact whole .true _ (same ▸ rfl) scanned
  rw [if_neg same] at scanned
  by_cases same : c = 'f'
  · rw [if_pos same] at scanned
    exact whole .false _ (same ▸ rfl) scanned
  rw [if_neg same] at scanned
  cases scanned
  cases sound

/-! ### Texts -/

/-- A mark that no number runs into. -/
def Mark.isPunctuation : Mark → Bool
  | closeList | closeObject | comma => Bool.true
  | _ => Bool.false

/-- No mark runs into a number before it. -/
def Spaced : List Mark → Prop
  | [] => True
  | .numeral _ :: rest => (∀ mark ∈ rest.head?, mark.isPunctuation = true) ∧ Spaced rest
  | _ :: rest => Spaced rest

theorem Spaced.tail (spaced : Spaced (mark :: marks)) : Spaced marks := by
  cases mark with
  | numeral => exact spaced.2
  | _ => exact spaced

/-- Before marks that no number runs into, the marks are spaced. -/
def Fits (marks : List Mark) : Prop :=
  ∀ rest, (∀ mark ∈ rest.head?, mark.isPunctuation = true) → Spaced rest → Spaced (marks ++ rest)

theorem spaced_commas {items : List (List Mark)} {rest : List Mark}
    (all : ∀ item ∈ items, Fits item) (closes : ∀ mark ∈ rest.head?, mark.isPunctuation = true)
    (spaced : Spaced rest) :
    Spaced (items.flatMap (.comma :: ·) ++ rest) ∧
      ∀ mark ∈ (items.flatMap (.comma :: ·) ++ rest).head?, mark.isPunctuation = true := by
  induction items with
  | nil => exact ⟨spaced, closes⟩
  | cons item items ih =>
    obtain ⟨first, others⟩ := List.forall_mem_cons.mp all
    obtain ⟨later, opens⟩ := ih others
    rw [List.flatMap_cons, List.append_assoc]
    refine ⟨first _ opens later, fun mark head => ?_⟩
    obtain rfl := Option.some.inj head
    rfl

theorem fits_intercalate {items : List (List Mark)} (all : ∀ item ∈ items, Fits item) :
    Fits ([.comma].intercalate items) := by
  intro rest closes spaced
  cases items with
  | nil => exact spaced
  | cons item items =>
    obtain ⟨first, others⟩ := List.forall_mem_cons.mp all
    obtain ⟨later, opens⟩ := spaced_commas others closes spaced
    rw [intercalate_cons, List.append_assoc]
    exact first _ opens later

mutual

theorem fits_marks : (tree : Tree) → Fits tree.marks
  | .word _ | .string _ => fun _ _ spaced => spaced
  | .numeral _ => fun _ closes spaced => ⟨closes, spaced⟩
  | .list items => fun rest closes spaced => by
    have inside := fits_intercalate (fits_itemMarks items) (.closeList :: rest)
      (fun mark head => Option.some.inj head ▸ rfl) spaced
    simpa [Tree.marks, Spaced] using inside
  | .object members => fun rest closes spaced => by
    have inside := fits_intercalate (fits_memberMarks members) (.closeObject :: rest)
      (fun mark head => Option.some.inj head ▸ rfl) spaced
    simpa [Tree.marks, Spaced] using inside

theorem fits_itemMarks : (items : List Tree) → ∀ item ∈ Tree.itemMarks items, Fits item
  | [] => List.forall_mem_nil _
  | item :: rest => List.forall_mem_cons.mpr ⟨fits_marks item, fits_itemMarks rest⟩

theorem fits_memberMarks : (members : List (List Part × Tree)) →
    ∀ member ∈ Tree.memberMarks members, Fits member
  | [] => List.forall_mem_nil _
  | (_, value) :: rest =>
    List.forall_mem_cons.mpr ⟨fits_marks value, fits_memberMarks rest⟩

end

theorem spaced_marks (tree : Tree) : Spaced tree.marks := by
  have alone := fits_marks tree [] nofun trivial
  rwa [List.append_nil] at alone

theorem continuesNumber_of_isSpace (space : isSpace c = true) : continuesNumber c = false := by
  simp only [isSpace, Bool.or_eq_true, beq_iff_eq] at space
  rcases space with ((rfl | rfl) | rfl) | rfl <;> rfl

theorem Laid.endsNumber (laid : Laid marks text)
    (punctuated : ∀ mark ∈ marks.head?, mark.isPunctuation = true) : EndsNumber text := by
  intro c first
  cases laid with
  | nil blank => exact continuesNumber_of_isSpace (blank c (List.mem_of_mem_head? first))
  | @cons gap text rest mark marks blank written laid =>
    cases gap with
    | cons space gap =>
      obtain rfl := Option.some.inj first
      exact continuesNumber_of_isSpace (blank _ List.mem_cons_self)
    | nil =>
      have closes := punctuated mark rfl
      cases written with
      | closeList | closeObject | comma =>
        obtain rfl := Option.some.inj first
        rfl
      | openList | openObject | colon | word | numeral | string => cases closes

theorem scan_gap {gap : List Char} (blank : ∀ c ∈ gap, isSpace c = true) (fuel start : Nat)
    (text : List Char) :
    scan (gap.length + fuel) start (gap ++ text) = scan fuel (start + gap.length) text := by
  induction gap generalizing start with
  | nil => simp
  | cons c gap ih =>
    obtain ⟨space, blank⟩ := List.forall_mem_cons.mp blank
    rw [List.length_cons, Nat.add_right_comm, List.cons_append, scan, if_pos space, ih blank]
    congr 1
    omega

/-- The marks of a text are what is scanned from it. -/
theorem map_scan_of_laid (laid : Laid marks text) (spaced : Spaced marks) (start : Nat)
    {fuel : Nat} (enough : text.length ≤ fuel) :
    (scan fuel start text).map (·.lexeme.mark?) = marks.map some := by
  induction laid generalizing fuel start with
  | @nil gap blank =>
    obtain ⟨left, rfl⟩ := Nat.exists_eq_add_of_le enough
    have nothing := scan_gap blank left start []
    rw [List.append_nil] at nothing
    rw [nothing]
    cases left <;> rfl
  | @cons gap text rest mark marks blank written laid ih =>
    have ends : ∀ numeral, mark = .numeral numeral → EndsNumber rest := by
      rintro numeral rfl
      exact laid.endsNumber spaced.1
    obtain ⟨c, chars, rfl, noSpace, scans⟩ := written.scans ends
    obtain ⟨lexeme, stop, token, marked⟩ := scans (start + gap.length)
    simp only [List.length_append, List.length_cons] at enough
    obtain ⟨left, rfl⟩ : ∃ left, fuel = gap.length + (left + 1) :=
      ⟨fuel - gap.length - 1, by omega⟩
    have sound := Lexeme.isSound_iff.mpr ⟨mark, marked⟩
    rw [List.append_assoc, scan_gap blank, List.cons_append, scan, noSpace, token]
    simp only [Bool.false_eq_true, if_false, sound, if_true]
    rw [List.map_cons, List.map_cons, marked, ih spaced.tail stop (by omega)]

theorem laid_space {c : Char} (space : isSpace c = true) (laid : Laid marks text) :
    Laid marks (c :: text) := by
  cases laid with
  | nil blank => exact .nil (List.forall_mem_cons.mpr ⟨space, blank⟩)
  | cons blank written laid =>
    rw [← List.cons_append, ← List.cons_append]
    exact .cons (List.forall_mem_cons.mpr ⟨space, blank⟩) written laid

/-- A text is laid out with the tokens that are scanned from it, if none is at fault. -/
theorem laid_of_map_scan {fuel : Nat} (enough : text.length ≤ fuel)
    (scanned : (scan fuel start text).map (·.lexeme.mark?) = marks.map some) :
    Laid marks text := by
  induction fuel generalizing start text marks with
  | zero =>
    obtain rfl := List.length_eq_zero_iff.mp (Nat.le_zero.mp enough)
    obtain rfl := List.map_eq_nil_iff.mp scanned.symm
    exact .nil nofun
  | succ fuel ih =>
    cases text with
    | nil =>
      obtain rfl := List.map_eq_nil_iff.mp scanned.symm
      exact .nil nofun
    | cons c text =>
      rw [List.length_cons] at enough
      rw [scan] at scanned
      split at scanned
      next space => exact laid_space space (ih (by omega) scanned)
      next noSpace =>
        cases token : scanToken start c text with
        | mk lexeme after =>
          obtain ⟨stop, rest⟩ := after
          simp only [token, List.map_cons] at scanned
          cases marks with
          | nil => cases scanned
          | cons mark marks =>
            obtain ⟨marked, later⟩ := List.cons.inj scanned
            obtain ⟨chars, written, rfl⟩ := written_of_scanToken token marked
            rw [if_pos (Lexeme.isSound_iff.mpr ⟨mark, marked⟩)] at later
            rw [List.length_append] at enough
            have laid : Laid (mark :: marks) ([] ++ (c :: chars) ++ rest) :=
              .cons (List.forall_mem_nil _) written (ih (by omega) later)
            exact laid

end TreeSchema.Json
