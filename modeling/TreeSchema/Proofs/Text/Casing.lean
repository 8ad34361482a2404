import TreeSchema.Proofs.Text.Words

/-!
What case mappings put in the place of a letter. The images of letters are letters, but for a few
characters whose images hold combining marks; those few are in the image of no other character.
-/

namespace TreeSchema.Text

variable {c d : Char} {out : List Char} {n : Nat}

/-! ### Letters and numbers -/

/-- The code points of the span are those of characters. -/
def Span.Valid (span : Span) : Prop :=
  span.last < 0xd800 ∨ 0xdfff < span.first ∧ span.last < 0x110000

instance : DecidablePred Span.Valid := fun _ => inferInstanceAs (Decidable (_ ∨ _))

theorem Span.contains_iff {span : Span} : span.contains n = true ↔
    span.first ≤ n ∧ n ≤ span.last ∧ (n - span.first) % span.step = 0 := by
  simp [contains, and_assoc]

theorem valid_of_mem_alphanumericSpans : ∀ span ∈ alphanumericSpans, span.Valid := by
  decide +kernel

theorem Span.Valid.isValidChar {span : Span} (valid : span.Valid)
    (inside : span.contains n = true) : n.isValidChar := by
  obtain ⟨first, last, -⟩ := contains_iff.mp inside
  rcases valid with below | ⟨above, below⟩
  · exact .inl (by omega)
  · exact .inr ⟨by omega, by omega⟩

/-- The table of letters and numbers tells the ASCII ones too. -/
theorem isAlphanum_of_mem_alphanumericSpans : ∀ span ∈ alphanumericSpans, span.first < 128 →
    span.last < 128 ∧ ∀ n < 128, span.contains n = true → (Char.ofNat n).isAlphanum = true := by
  decide +kernel

theorem isAlphanumeric_ofNat {span : Span} (among : span ∈ alphanumericSpans)
    (inside : span.contains n = true) : isAlphanumeric (Char.ofNat n) = true := by
  have same := toNat_ofNat ((valid_of_mem_alphanumericSpans span among).isValidChar inside)
  unfold isAlphanumeric
  split
  next ascii =>
    rw [same] at ascii
    have small := Nat.lt_of_le_of_lt (Span.contains_iff.mp inside).1 ascii
    exact (isAlphanum_of_mem_alphanumericSpans span among small).2 n ascii inside
  next => exact List.any_eq_true.mpr ⟨span, among, same.symm ▸ inside⟩

theorem isAlphanumeric_recased (ascii : c.toNat < 128) : isAlphanumeric c = true →
    isAlphanumeric c.toLower = true ∧ isAlphanumeric c.toUpper = true :=
  forall_ascii (p := fun c => isAlphanumeric c = true →
    isAlphanumeric c.toLower = true ∧ isAlphanumeric c.toUpper = true) (by decide +kernel) ascii

theorem ascii_recased (ascii : c.toNat < 128) : c.toLower.toNat < 128 ∧ c.toUpper.toNat < 128 :=
  forall_ascii (p := fun c => c.toLower.toNat < 128 ∧ c.toUpper.toNat < 128) (by decide) ascii

/-! ### Images -/

/-- What a conversion may put in the place of a character. -/
inductive Image (c : Char) : List Char → Prop
  | lower : Image c (lower c)
  | upper : Image c (upper c)
  | finalSigma (sigma : c = 'Σ') : Image c ['ς']

/-- Why a character is in the image of another one. -/
inductive Origin (c : Char) (image : List Char) (d : Char) : Prop
  | ascii (small : c.toNat < 128) (recased : d = c.toLower ∨ d = c.toUpper)
  | sigma (final : d = 'ς')
  | longer {entry : Nat × List Nat} {point : Nat} (among : entry ∈ lowerLonger ++ upperLonger)
    (key : entry.1 = c.toNat) (inside : point ∈ entry.2) (found : d = Char.ofNat point)
  | shifted {shift : Shift} {point : Nat} (among : shift ∈ lowerShifts ++ upperShifts)
    (moved : shift.image? c.toNat = some point) (found : d = Char.ofNat point)
  | unchanged (same : d = c) (alone : image = [c])

theorem origin_of_mem_caseImage {shifts : List Shift} {longer : List (Nat × List Nat)}
    (fewer : shifts ⊆ lowerShifts ++ upperShifts) (some : longer ⊆ lowerLonger ++ upperLonger)
    (member : d ∈ caseImage shifts longer c) : Origin c (caseImage shifts longer c) d := by
  unfold caseImage at member ⊢
  split at member
  next points found =>
    obtain ⟨point, inside, rfl⟩ := List.mem_map.mp member
    obtain ⟨front, back, parts, -⟩ := List.lookup_eq_some_iff.mp found
    exact .longer (some (parts ▸ List.mem_append_right _ List.mem_cons_self)) rfl inside rfl
  next missing =>
    split at member
    next point found =>
      obtain ⟨shift, among, moved⟩ := List.exists_of_findSome?_eq_some found
      exact .shifted (fewer among) moved (List.mem_singleton.mp member)
    next unmoved =>
      exact .unchanged (List.mem_singleton.mp member) rfl

theorem Image.origin (image : Image c out) (member : d ∈ out) : Origin c out d := by
  cases image with
  | lower =>
    unfold Text.lower at member ⊢
    split at member
    next small => exact .ascii small (.inl (List.mem_singleton.mp member))
    next large =>
      rw [if_neg large]
      exact origin_of_mem_caseImage (List.subset_append_left _ _) (List.subset_append_left _ _)
        member
  | upper =>
    unfold Text.upper at member ⊢
    split at member
    next small => exact .ascii small (.inr (List.mem_singleton.mp member))
    next large =>
      rw [if_neg large]
      exact origin_of_mem_caseImage (List.subset_append_right _ _)
        (List.subset_append_right _ _) member
  | finalSigma => exact .sigma (List.mem_singleton.mp member)

/-! ### Lone characters -/

/-- Nothing has the character in its image but the character itself, staying as it is. -/
def Lone (c : Char) : Prop :=
  ∀ d image, Image d image → c ∈ image → d = c ∧ image = [c]

/-- The code points that the shift maps to. -/
def Shift.images (shift : Shift) : Span :=
  ⟨shift.target, shift.target + (shift.span.last - shift.span.first), shift.span.step⟩

theorem Shift.contains_images {shift : Shift} {point : Nat} (moved : shift.image? n = some point) :
    shift.images.contains point = true := by
  unfold Shift.image? at moved
  split at moved
  next inside =>
    obtain rfl := Option.some.inj moved
    obtain ⟨first, last, whole⟩ := Span.contains_iff.mp inside
    refine Span.contains_iff.mpr ⟨?above, ?below, ?steps⟩ <;> dsimp only [images]
    case above => omega
    case below => omega
    case steps => rwa [Nat.add_sub_cancel_left]
  next => cases moved

/-- No table maps anything to the code point. -/
structure Unreached (n : Nat) : Prop where
  beyond : 128 ≤ n
  noSigma : n ≠ 'ς'.toNat
  noShift : ∀ shift ∈ lowerShifts ++ upperShifts, shift.images.contains n = false
  noLonger : ∀ entry ∈ lowerLonger ++ upperLonger, n ∉ entry.2

instance : DecidablePred Unreached := fun _ =>
  decidable_of_iff (_ ∧ _ ∧ _ ∧ _)
    ⟨fun ⟨beyond, noSigma, noShift, noLonger⟩ => ⟨beyond, noSigma, noShift, noLonger⟩,
      fun ⟨beyond, noSigma, noShift, noLonger⟩ => ⟨beyond, noSigma, noShift, noLonger⟩⟩

/-- The character of a number that is no code point is the first of all. -/
theorem eq_of_ofNat_eq {point : Nat} (beyond : 128 ≤ c.toNat) (same : c = Char.ofNat point) :
    point = c.toNat := by
  by_cases valid : point.isValidChar
  · exact same ▸ (toNat_ofNat valid).symm
  · rw [Char.ofNat, dif_neg valid] at same
    subst same
    exact absurd beyond (by decide)

theorem Unreached.lone (unreached : Unreached c.toNat) : Lone c := by
  intro d out image member
  rcases image.origin member with ⟨small, recased⟩ | final | ⟨among, -, inside, found⟩ |
    ⟨among, moved, found⟩ | ⟨same, alone⟩
  case ascii =>
    obtain ⟨lower, upper⟩ := ascii_recased small
    rcases recased with rfl | rfl
    · exact absurd lower (Nat.not_lt.mpr unreached.beyond)
    · exact absurd upper (Nat.not_lt.mpr unreached.beyond)
  case sigma => exact absurd (congrArg Char.toNat final) unreached.noSigma
  case longer =>
    exact absurd (eq_of_ofNat_eq unreached.beyond found ▸ inside) (unreached.noLonger _ among)
  case shifted =>
    have reached := Shift.contains_images moved
    rw [eq_of_ofNat_eq unreached.beyond found, unreached.noShift _ among] at reached
    cases reached
  case unchanged => exact ⟨same.symm, same ▸ alone⟩

/-! ### Images of letters -/

/-- Whether the span goes on without gaps from the start of the other one to its end. It compares
in the way that computes fastest, as many pairs of spans are tried. -/
def Span.covers (span inner : Span) : Bool :=
  inner.last.ble span.last && span.first.ble inner.first && span.step.beq 1

theorem Span.contains_of_covers {span inner : Span} (covers : span.covers inner = true)
    (inside : inner.contains n = true) : span.contains n = true := by
  obtain ⟨first, last, -⟩ := contains_iff.mp inside
  simp only [Span.covers, Bool.and_eq_true, Nat.ble_eq, Nat.beq_eq] at covers
  obtain ⟨⟨above, below⟩, every⟩ := covers
  exact contains_iff.mpr
    ⟨Nat.le_trans below first, Nat.le_trans last above, every ▸ Nat.mod_one _⟩

/-- Every image of the shift is a letter or a number, as one span tells or as several do. -/
def Shift.KeepsLetters (shift : Shift) : Prop :=
  alphanumericSpans.any (·.covers shift.images) = true ∨
  ∀ offset ≤ shift.span.last - shift.span.first, offset % shift.span.step = 0 →
    ∃ span ∈ alphanumericSpans, span.contains (shift.target + offset) = true

instance : DecidablePred Shift.KeepsLetters := fun _ => inferInstanceAs (Decidable (_ ∨ _))

theorem keepsLetters_of_mem_shifts : ∀ shift ∈ lowerShifts ++ upperShifts, shift.KeepsLetters := by
  decide +kernel

theorem Shift.KeepsLetters.isAlphanumeric {shift : Shift} {point : Nat} (keeps : shift.KeepsLetters)
    (moved : shift.image? n = some point) : isAlphanumeric (Char.ofNat point) = true := by
  have inside := contains_images moved
  rcases keeps with whole | each
  · obtain ⟨span, among, covers⟩ := List.any_eq_true.mp whole
    exact isAlphanumeric_ofNat among (Span.contains_of_covers covers inside)
  · obtain ⟨first, last, steps⟩ := Span.contains_iff.mp inside
    dsimp only [images] at first last steps
    obtain ⟨span, among, inside⟩ := each (point - shift.target) (by omega) steps
    rw [Nat.add_sub_of_le first] at inside
    exact isAlphanumeric_ofNat among inside

/-- The longer images that hold a mark are those of characters that no table maps to. -/
theorem longer_letters_or_unreached : ∀ entry ∈ lowerLonger ++ upperLonger,
    (∀ point ∈ entry.2, isAlphanumeric (Char.ofNat point) = true) ∨ Unreached entry.1 := by
  decide +kernel

/-- An image of a letter holds letters only, or nothing else has the letter in its image. -/
theorem isAlphanumeric_or_lone (letter : isAlphanumeric c = true) (image : Image c out)
    (member : d ∈ out) : isAlphanumeric d = true ∨ Lone c := by
  rcases image.origin member with ⟨small, recased⟩ | final | ⟨among, key, inside, rfl⟩ |
    ⟨among, moved, rfl⟩ | ⟨rfl, -⟩
  case ascii =>
    obtain ⟨lower, upper⟩ := isAlphanumeric_recased small letter
    rcases recased with rfl | rfl
    · exact .inl lower
    · exact .inl upper
  case sigma => exact .inl (final ▸ by decide +kernel)
  case longer =>
    rcases longer_letters_or_unreached _ among with letters | unreached
    · exact .inl (letters _ inside)
    · exact .inr (key ▸ unreached).lone
  case shifted => exact .inl ((keepsLetters_of_mem_shifts _ among).isAlphanumeric moved)
  case unchanged => exact .inl letter

end TreeSchema.Text
