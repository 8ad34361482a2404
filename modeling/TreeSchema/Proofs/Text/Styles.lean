import Mathlib.Data.List.Basic
import TreeSchema.Proofs.Text.Spelling

/-!
A name in snake case has the words of the name it was made from. The underscores part them, and no
word in lower case is cut again, so that other conversions of both names agree. All of this is about
ASCII, where the case of a letter can be changed back.
-/

namespace TreeSchema.Text

variable {c : Char} {run word part rest name : List Char} {hump : Hump} {lists : List (List Char)}

/-! ### Letters -/

def IsAscii (text : List Char) : Prop :=
  ∀ c ∈ text, c.toNat < 128

instance : DecidablePred IsAscii := List.decidableBAll _

theorem lower_eq (ascii : c.toNat < 128) : lower c = [c.toLower] :=
  if_pos ascii

theorem upper_eq (ascii : c.toNat < 128) : upper c = [c.toUpper] :=
  if_pos ascii

theorem toLower_toLower (ascii : c.toNat < 128) : c.toLower.toLower = c.toLower :=
  forall_ascii (p := fun c => c.toLower.toLower = c.toLower) (by decide) ascii

theorem toUpper_toLower (ascii : c.toNat < 128) : c.toLower.toUpper = c.toUpper :=
  forall_ascii (p := fun c => c.toLower.toUpper = c.toUpper) (by decide) ascii

theorem isUppercase_toLower (ascii : c.toNat < 128) : isUppercase c.toLower = false :=
  forall_ascii (p := fun c => isUppercase c.toLower = false) (by decide +kernel) ascii

/-! ### Words in another case -/

theorem IsAscii.map_toLower (ascii : IsAscii word) : IsAscii (word.map Char.toLower) := by
  intro c inside
  obtain ⟨d, member, rfl⟩ := List.mem_map.mp inside
  exact (ascii_recased (ascii d member)).1

theorem lowerWord_eq_map (ascii : IsAscii word) :
    lowerWord word = word.map Char.toLower := by
  fun_induction lowerWord word with
  | case1 => rfl
  | case2 => exact absurd (ascii 'Σ' List.mem_cons_self) (by decide)
  | case3 c => exact lower_eq (ascii c List.mem_cons_self)
  | case4 c rest _ ih =>
    obtain ⟨first, others⟩ := List.forall_mem_cons.mp ascii
    rw [lower_eq first, ih others]
    rfl

theorem lowerWord_lowerWord (ascii : IsAscii word) :
    lowerWord (lowerWord word) = lowerWord word := by
  rw [lowerWord_eq_map ascii, lowerWord_eq_map ascii.map_toLower, List.map_map]
  apply List.map_congr_left
  intro c inside
  exact toLower_toLower (ascii c inside)

theorem capitalizedWord_lowerWord (ascii : IsAscii word) :
    capitalizedWord (lowerWord word) = capitalizedWord word := by
  cases word with
  | nil => rfl
  | cons c rest =>
    obtain ⟨first, others⟩ := List.forall_mem_cons.mp ascii
    have again := lowerWord_lowerWord others
    rw [lowerWord_eq_map others] at again
    rw [lowerWord_eq_map ascii, List.map_cons, capitalizedWord, capitalizedWord, again,
      lowerWord_eq_map others, upper_eq (ascii_recased first).1, upper_eq first,
      toUpper_toLower first]

/-! ### Runs -/

theorem runs_append (letters : ∀ c ∈ run, isAlphanumeric c = true)
    (other : isAlphanumeric c = false) : runs (run ++ c :: rest) = run :: runs rest := by
  induction run with
  | nil =>
    rw [List.nil_append, runs, other]
  | cons d run ih =>
    obtain ⟨letter, letters⟩ := List.forall_mem_cons.mp letters
    rw [List.cons_append, runs, letter, ih letters]

theorem runs_of_letters (letters : ∀ c ∈ run, isAlphanumeric c = true) : runs run = [run] := by
  induction run with
  | nil => rfl
  | cons d run ih =>
    obtain ⟨letter, letters⟩ := List.forall_mem_cons.mp letters
    rw [runs, letter, ih letters]

theorem runs_intercalate (letters : ∀ run ∈ lists, ∀ c ∈ run, isAlphanumeric c = true)
    (nonempty : lists ≠ []) : runs (['_'].intercalate lists) = lists := by
  induction lists with
  | nil => exact absurd rfl nonempty
  | cons first others ih =>
    obtain ⟨inFirst, inOthers⟩ := List.forall_mem_cons.mp letters
    cases others with
    | nil =>
      rw [List.intercalate_singleton]
      exact runs_of_letters inFirst
    | cons second others =>
      rw [List.intercalate_cons_cons, List.append_assoc, List.singleton_append,
        runs_append inFirst (by decide), ih inOthers (List.cons_ne_nil _ _)]

/-! ### Words -/

/-- A run is cut at letters of upper case only. -/
theorem humps_of_noUpper (noUpper : ∀ c ∈ rest, isUppercase c = false)
    (nonempty : word ++ rest ≠ []) : humps hump word rest = [word ++ rest] := by
  fun_induction humps hump word rest with
  | case1 word hump empty => simp_all
  | case2 word hump => simp
  | case3 hump word c => rfl
  | case4 hump word c d rest ends =>
    have plain := noUpper d (List.mem_cons_of_mem _ List.mem_cons_self)
    rw [ends.2] at plain
    cases plain
  | case5 hump word c d rest _ ends =>
    have plain := noUpper c List.mem_cons_self
    rw [ends.2.1] at plain
    cases plain
  | case6 hump word c d rest _ _ ih =>
    rw [ih (List.forall_mem_cons.mp noUpper).2 (by simp), ← List.append_cons]

/-- No word is empty, as one ends early only where letters of upper case went before. -/
theorem ne_nil_of_mem_humps (begun : hump = .upper → word ≠ [])
    (member : part ∈ humps hump word rest) : part ≠ [] := by
  fun_induction humps hump word rest with
  | case1 => cases member
  | case2 word hump some =>
    rw [List.mem_singleton.mp member]
    simpa using some
  | case3 hump word c =>
    rw [List.mem_singleton.mp member]
    simp
  | case4 hump word c d rest ends ih =>
    rcases List.mem_cons.mp member with rfl | later
    · simp
    · exact ih (fun begun => absurd begun (by decide)) later
  | case5 hump word c d rest _ ends ih =>
    rcases List.mem_cons.mp member with rfl | later
    · exact begun ends.1
    · exact ih (fun begun => absurd begun (by decide)) later
  | case6 hump word c d rest _ _ ih => exact ih (fun _ => by simp) member

theorem ne_nil_of_mem_words (member : part ∈ words name) : part ≠ [] := by
  obtain ⟨run, -, inside⟩ := List.mem_flatMap.mp member
  apply ne_nil_of_mem_humps ?_ inside
  intro begun
  cases begun

theorem IsAscii.of_mem_words (ascii : IsAscii name) (member : part ∈ words name) :
    IsAscii part := by
  intro c inside
  have within : c ∈ (words name).flatten := List.mem_flatten_of_mem member inside
  rw [flatten_words] at within
  exact ascii c (List.mem_of_mem_filter within)

/-! ### Names in snake case -/

/-- The words of a name in snake case are those of the name, in lower case. -/
theorem words_snakeCaseChars (ascii : IsAscii name) :
    words (snakeCaseChars name) = (words name).map lowerWord := by
  have lowered : ∀ part ∈ words name, lowerWord part = part.map Char.toLower :=
    fun part member => lowerWord_eq_map (ascii.of_mem_words member)
  have letters : ∀ run ∈ (words name).map lowerWord, ∀ c ∈ run, isAlphanumeric c = true := by
    intro run among c inside
    obtain ⟨part, member, rfl⟩ := List.mem_map.mp among
    rw [lowered part member] at inside
    obtain ⟨d, within, rfl⟩ := List.mem_map.mp inside
    exact (isAlphanumeric_recased (ascii.of_mem_words member d within)
      (isAlphanumeric_of_mem_words member within)).1
  have whole : ∀ run ∈ (words name).map lowerWord, humps .start [] run = [run] := by
    intro run among
    obtain ⟨part, member, rfl⟩ := List.mem_map.mp among
    rw [lowered part member]
    apply humps_of_noUpper
    · intro c inside
      obtain ⟨d, within, rfl⟩ := List.mem_map.mp inside
      exact isUppercase_toLower (ascii.of_mem_words member d within)
    · simpa using ne_nil_of_mem_words member
  by_cases none : words name = []
  · rw [snakeCaseChars, none]
    rfl
  · calc words (snakeCaseChars name)
        = ((words name).map lowerWord).flatMap (humps .start []) := by
          rw [snakeCaseChars, words, runs_intercalate letters (by simpa using none)]
      _ = ((words name).map lowerWord).flatMap fun run => [run] := List.flatMap_congr whole
      _ = (words name).map lowerWord := List.flatMap_singleton' _

theorem snakeCaseChars_snakeCaseChars (ascii : IsAscii name) :
    snakeCaseChars (snakeCaseChars name) = snakeCaseChars name := by
  rw [snakeCaseChars, words_snakeCaseChars ascii, List.map_map, snakeCaseChars]
  congr 1
  apply List.map_congr_left
  intro part member
  exact lowerWord_lowerWord (ascii.of_mem_words member)

theorem pascalCaseChars_snakeCaseChars (ascii : IsAscii name) :
    pascalCaseChars (snakeCaseChars name) = pascalCaseChars name := by
  rw [pascalCaseChars, words_snakeCaseChars ascii, List.flatMap_map, pascalCaseChars]
  apply List.flatMap_congr
  intro part member
  exact capitalizedWord_lowerWord (ascii.of_mem_words member)

/-- A name that starts with a letter starts with it in snake case too. -/
theorem head?_snakeCaseChars (ascii : IsAscii (c :: rest))
    (letter : isAlphanumeric c = true) : (snakeCaseChars (c :: rest)).head? = some c.toLower := by
  have letters := flatten_words (c :: rest)
  rw [List.filter_cons_of_pos letter] at letters
  cases parts : words (c :: rest) with
  | nil =>
    rw [parts] at letters
    cases letters
  | cons first others =>
    have member : first ∈ words (c :: rest) := parts ▸ List.mem_cons_self
    have lowered := lowerWord_eq_map (ascii.of_mem_words member)
    have nonempty := ne_nil_of_mem_words member
    rw [parts] at letters
    rw [snakeCaseChars, parts, List.map_cons, lowered]
    cases first with
    | nil => exact absurd rfl nonempty
    | cons d more =>
      obtain ⟨rfl, -⟩ := List.cons.inj letters
      cases others with
      | nil => rfl
      | cons second others =>
        rw [List.map_cons, List.map_cons, List.intercalate_cons_cons]
        rfl

end TreeSchema.Text
