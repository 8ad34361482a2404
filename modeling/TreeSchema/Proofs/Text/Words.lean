import TreeSchema.Text.Words

/-!
The characters of a name in snake case. None of them comes before the digits, so such a name holds
neither a point nor anything that parts a path.
-/

namespace TreeSchema.Text

variable {c d : Char} {part name : List Char}

/-! ### Words -/

theorem isAlphanumeric_of_mem_runs (member : part ∈ runs name) (inside : c ∈ part) :
    isAlphanumeric c = true := by
  induction name generalizing part with
  | nil => simp_all [runs]
  | cons first rest ih =>
    unfold runs at member
    split at member
    next run others letter parts =>
      rw [parts] at ih
      rcases List.mem_cons.mp member with rfl | among
      · rcases List.mem_cons.mp inside with rfl | inside
        · exact letter
        · exact ih List.mem_cons_self inside
      · exact ih (List.mem_cons_of_mem _ among) inside
    next letter _ =>
      obtain rfl := List.mem_singleton.mp member
      exact List.mem_singleton.mp inside ▸ letter
    next =>
      rcases List.mem_cons.mp member with rfl | among
      · cases inside
      · exact ih among inside

/-- Cutting a run into words loses and adds nothing. -/
theorem flatten_humps (hump : Hump) (word rest : List Char) :
    (humps hump word rest).flatten = word ++ rest := by
  fun_induction humps hump word rest with
  | case1 => simp_all
  | case2 => simp_all
  | case3 => simp
  | case4 hump word c d rest ends ih => simp [ih]
  | case5 hump word c d rest _ ends ih => simp [ih]
  | case6 hump word c d rest _ _ ih => simp [ih]

theorem isAlphanumeric_of_mem_words (member : part ∈ words name) (inside : c ∈ part) :
    isAlphanumeric c = true := by
  obtain ⟨run, among, member⟩ := List.mem_flatMap.mp member
  have inRun : c ∈ run := by
    rw [← List.nil_append run, ← flatten_humps .start [] run]
    exact List.mem_flatten_of_mem member inside
  exact isAlphanumeric_of_mem_runs among inRun

/-! ### Lower case -/

/-- The character is a digit or comes after the digits. -/
def FromDigits (c : Char) : Prop := '0'.toNat ≤ c.toNat

instance : DecidablePred FromDigits := fun _ => inferInstanceAs (Decidable (_ ≤ _))

/-- What is so for each number below 128 is so for the ASCII characters. -/
theorem forall_ascii {p : Char → Prop} (each : ∀ n < 128, p (Char.ofNat n))
    (ascii : c.toNat < 128) : p c := by
  rw [← Char.ofNat_toNat c]
  exact each c.toNat ascii

theorem fromDigits_toLower (ascii : c.toNat < 128) :
    c.isAlphanum = true → FromDigits c.toLower :=
  forall_ascii (p := fun c => c.isAlphanum = true → FromDigits c.toLower) (by decide) ascii

theorem toNat_ofNat {n : Nat} (valid : n.isValidChar) : (Char.ofNat n).toNat = n := by
  rw [Char.ofNat, dif_pos valid]
  rfl

theorem fromDigits_ofNat {n : Nat} (least : 48 ≤ n) (valid : n.isValidChar) :
    FromDigits (Char.ofNat n) := by
  rw [FromDigits, toNat_ofNat valid]
  exact least

/-- Every image of the shift is a character, and no earlier than the digits. -/
def Shift.Lands (shift : Shift) : Prop :=
  48 ≤ shift.target ∧ (shift.target + (shift.span.last - shift.span.first) < 0xd800 ∨
    0xdfff < shift.target ∧ shift.target + (shift.span.last - shift.span.first) < 0x110000)

instance : DecidablePred Shift.Lands := fun _ => inferInstanceAs (Decidable (_ ∧ _))

theorem Shift.Lands.fromDigits {shift : Shift} {n point : Nat} (lands : shift.Lands)
    (image : shift.image? n = some point) : FromDigits (Char.ofNat point) := by
  unfold Shift.image? at image
  split at image
  next inside =>
    obtain rfl := Option.some.inj image
    simp only [Span.contains, Bool.and_eq_true, decide_eq_true_eq] at inside
    obtain ⟨⟨first, last⟩, -⟩ := inside
    obtain ⟨least, below | ⟨above, below⟩⟩ := lands
    · exact fromDigits_ofNat (by omega) (.inl (by omega))
    · exact fromDigits_ofNat (by omega) (.inr ⟨by omega, by omega⟩)
  next => cases image

theorem lands_of_mem_lowerShifts : ∀ shift ∈ lowerShifts, shift.Lands := by
  decide +kernel

theorem fromDigits_of_mem_longer : ∀ entry ∈ lowerLonger, ∀ point ∈ entry.2,
    FromDigits (Char.ofNat point) := by
  decide

theorem fromDigits_of_mem_lower (letter : isAlphanumeric c = true) (member : d ∈ lower c) :
    FromDigits d := by
  unfold lower at member
  split at member
  next ascii =>
    rw [isAlphanumeric, if_pos ascii] at letter
    exact List.mem_singleton.mp member ▸ fromDigits_toLower ascii letter
  next beyond =>
    unfold caseImage at member
    split at member
    next image found =>
      obtain ⟨point, among, rfl⟩ := List.mem_map.mp member
      obtain ⟨front, back, parts, -⟩ := List.lookup_eq_some_iff.mp found
      exact fromDigits_of_mem_longer _ (parts ▸ List.mem_append_right _ List.mem_cons_self) point
        among
    next =>
      split at member
      next point found =>
        obtain ⟨shift, among, image⟩ := List.exists_of_findSome?_eq_some found
        exact List.mem_singleton.mp member ▸ (lands_of_mem_lowerShifts shift among).fromDigits image
      next =>
        obtain rfl := List.mem_singleton.mp member
        exact Nat.le_trans (by decide) (Nat.not_lt.mp beyond)

theorem fromDigits_of_mem_lowerWord (letters : ∀ c ∈ part, isAlphanumeric c = true)
    (member : d ∈ lowerWord part) : FromDigits d := by
  fun_induction lowerWord part with
  | case1 => cases member
  | case2 =>
    obtain rfl := List.mem_singleton.mp member
    decide
  | case3 c => exact fromDigits_of_mem_lower (letters c List.mem_cons_self) member
  | case4 c rest _ ih =>
    rcases List.mem_append.mp member with first | later
    · exact fromDigits_of_mem_lower (letters c List.mem_cons_self) first
    · exact ih (fun c among => letters c (List.mem_cons_of_mem _ among)) later

theorem mem_of_mem_intercalate {α : Type} {a : α} {separator : List α} {lists : List (List α)}
    (member : a ∈ separator.intercalate lists) : a ∈ separator ∨ ∃ list ∈ lists, a ∈ list := by
  induction lists with
  | nil => simp at member
  | cons first rest ih =>
    cases rest with
    | nil => exact .inr ⟨first, by simp, by simpa using member⟩
    | cons second others =>
      rw [List.intercalate_cons_cons, List.mem_append, List.mem_append] at member
      rcases member with (inFirst | between) | later
      · exact .inr ⟨first, List.mem_cons_self, inFirst⟩
      · exact .inl between
      · exact (ih later).imp_right fun ⟨list, among, inside⟩ =>
          ⟨list, List.mem_cons_of_mem _ among, inside⟩

theorem fromDigits_of_mem_snakeCaseChars (member : c ∈ snakeCaseChars name) : FromDigits c := by
  rcases mem_of_mem_intercalate member with between | ⟨list, among, inside⟩
  · obtain rfl := List.mem_singleton.mp between
    decide
  · obtain ⟨word, inWords, rfl⟩ := List.mem_map.mp among
    exact fromDigits_of_mem_lowerWord
      (fun _ inWord => isAlphanumeric_of_mem_words inWords inWord) inside

end TreeSchema.Text
