import TreeSchema.Proofs.Text.Casing

/-!
Names that a conversion leaves as they are. They hold nothing but letters, numbers and, in snake
case, underscores. A mark could only come from the image of a letter; such a letter is in no other
image, so a name that is its own conversion would lose it.
-/

namespace TreeSchema.Text

variable {c : Char} {letters others out outs name : List Char}

/-! ### Conversions, letter by letter -/

/-- The second text puts an image in the place of each character of the first. -/
def Respelled (letters out : List Char) : Prop :=
  ∃ pairs : List (Char × List Char), (∀ pair ∈ pairs, Image pair.1 pair.2) ∧
    pairs.map (·.1) = letters ∧ pairs.flatMap (·.2) = out

theorem Respelled.nil : Respelled [] [] :=
  ⟨[], nofun, rfl, rfl⟩

theorem Respelled.append (first : Respelled letters out) (second : Respelled others outs) :
    Respelled (letters ++ others) (out ++ outs) := by
  obtain ⟨pairs, images, rfl, rfl⟩ := first
  obtain ⟨more, moreImages, rfl, rfl⟩ := second
  exact ⟨pairs ++ more, List.forall_mem_append.mpr ⟨images, moreImages⟩, List.map_append,
    List.flatMap_append⟩

theorem Respelled.singleton (image : Image c out) : Respelled [c] out :=
  ⟨[(c, out)], by simpa using image, rfl, by simp⟩

theorem respelled_lowerWord (word : List Char) : Respelled word (lowerWord word) := by
  fun_induction lowerWord word with
  | case1 => exact .nil
  | case2 => exact .singleton (.finalSigma rfl)
  | case3 => exact .singleton .lower
  | case4 c rest _ ih => exact (Respelled.singleton .lower).append ih

theorem respelled_capitalizedWord (word : List Char) : Respelled word (capitalizedWord word) := by
  cases word with
  | nil => exact .nil
  | cons c rest => exact (Respelled.singleton .upper).append (respelled_lowerWord rest)

theorem respelled_flatMap {convert : List Char → List Char}
    (each : ∀ word, Respelled word (convert word)) (words : List (List Char)) :
    Respelled words.flatten (words.flatMap convert) := by
  induction words with
  | nil => exact .nil
  | cons word rest ih => exact (each word).append ih

/-! ### Letters of names -/

theorem flatten_runs (name : List Char) : (runs name).flatten = name.filter isAlphanumeric := by
  induction name with
  | nil => rfl
  | cons c rest ih =>
    unfold runs
    split
    next run others letter parts =>
      rw [parts] at ih
      simp [letter, ← ih]
    next letter parts =>
      rw [parts] at ih
      simp [letter, ← ih]
    next other =>
      simp [other, ih]

/-- The words of a name hold its letters and numbers, in their order. -/
theorem flatten_words (name : List Char) : (words name).flatten = name.filter isAlphanumeric := by
  rw [← flatten_runs, words]
  induction runs name with
  | nil => rfl
  | cons run rest ih =>
    rw [List.flatMap_cons, List.flatten_append, flatten_humps, List.nil_append, ih,
      List.flatten_cons]

/-! ### Names that stay -/

/-- A lone character comes from itself only. -/
theorem Lone.count_le (lone : Lone c) {pairs : List (Char × List Char)}
    (images : ∀ pair ∈ pairs, Image pair.1 pair.2) :
    (pairs.flatMap (·.2)).count c ≤ (pairs.map (·.1)).count c := by
  induction pairs with
  | nil => exact Nat.le_refl 0
  | cons pair rest ih =>
    obtain ⟨d, image⟩ := pair
    obtain ⟨first, others⟩ := List.forall_mem_cons.mp images
    have later := ih others
    rw [List.flatMap_cons, List.count_append, List.map_cons, List.count_cons]
    by_cases inside : c ∈ image
    · obtain ⟨rfl, rfl⟩ := lone d image first inside
      rw [List.count_singleton_self, beq_self_eq_true, if_pos rfl]
      omega
    · rw [List.count_eq_zero_of_not_mem inside]
      omega

/-- Where a lone character is not lost, it stays as it is. -/
theorem Lone.stays (lone : Lone c) {pairs : List (Char × List Char)}
    (images : ∀ pair ∈ pairs, Image pair.1 pair.2)
    (kept : (pairs.map (·.1)).count c ≤ (pairs.flatMap (·.2)).count c) {image : List Char}
    (member : (c, image) ∈ pairs) : image = [c] := by
  obtain ⟨front, back, rfl⟩ := List.append_of_mem member
  obtain ⟨frontImages, among⟩ := List.forall_mem_append.mp images
  obtain ⟨here, backImages⟩ := List.forall_mem_cons.mp among
  have before := lone.count_le frontImages
  have after := lone.count_le backImages
  simp only [List.map_append, List.map_cons, List.flatMap_append, List.flatMap_cons,
    List.count_append, List.count_cons_self] at kept
  -- No part around it gives more than it had, so this image gives the character back.
  have inside : c ∈ image := List.count_pos_iff.mp (by omega)
  exact (lone c image here inside).2

/-- A respelling of a name's letters that loses none of them holds letters only. -/
theorem Respelled.isAlphanumeric (respelled : Respelled (name.filter isAlphanumeric) out)
    (kept : ∀ c, isAlphanumeric c = true → name.count c ≤ out.count c) (member : c ∈ out) :
    isAlphanumeric c = true := by
  obtain ⟨pairs, images, letters, rfl⟩ := respelled
  obtain ⟨⟨d, image⟩, among, inside⟩ := List.mem_flatMap.mp member
  have letter : Text.isAlphanumeric d = true :=
    (List.mem_filter.mp (letters ▸ List.mem_map_of_mem among)).2
  rcases isAlphanumeric_or_lone letter (images _ among) inside with kind | lone
  · exact kind
  · have all : (pairs.map (·.1)).count d ≤ (pairs.flatMap (·.2)).count d := by
      rw [letters, List.count_filter letter]
      exact kept d letter
    obtain rfl := lone.stays images all among
    exact List.mem_singleton.mp inside ▸ letter

theorem isAlphanumeric_of_pascalCaseChars (stays : pascalCaseChars name = name)
    (member : c ∈ name) : isAlphanumeric c = true := by
  have respelled : Respelled (name.filter isAlphanumeric) name := by
    conv => rhs; rw [← stays]
    rw [← flatten_words]
    exact respelled_flatMap respelled_capitalizedWord _
  exact respelled.isAlphanumeric (fun _ _ => Nat.le_refl _) member

theorem count_intercalate {separator : List Char} (other : c ∉ separator)
    (lists : List (List Char)) : (separator.intercalate lists).count c = lists.flatten.count c := by
  induction lists with
  | nil => rfl
  | cons first rest ih =>
    cases rest with
    | nil => simp
    | cons second others =>
      rw [List.intercalate_cons_cons, List.count_append, List.count_append, ih,
        List.count_eq_zero_of_not_mem other, Nat.add_zero, ← List.count_append]
      rfl

theorem isAlphanumeric_of_snakeCaseChars (stays : snakeCaseChars name = name)
    (member : c ∈ name) : isAlphanumeric c = true ∨ c = '_' := by
  rw [← stays] at member
  rcases mem_of_mem_intercalate member with between | ⟨list, among, inside⟩
  · exact .inr (List.mem_singleton.mp between)
  have respelled : Respelled (name.filter isAlphanumeric) ((words name).flatMap lowerWord) := by
    rw [← flatten_words]
    exact respelled_flatMap respelled_lowerWord _
  have kept : ∀ c, isAlphanumeric c = true →
      name.count c ≤ ((words name).flatMap lowerWord).count c := by
    intro c letter
    have other : c ∉ ['_'] := by
      intro within
      rw [List.mem_singleton.mp within] at letter
      exact absurd letter (by decide)
    refine Nat.le_of_eq ?_
    calc name.count c = (snakeCaseChars name).count c := by rw [stays]
      _ = ((words name).flatMap lowerWord).count c := by
        rw [snakeCaseChars, count_intercalate other, List.flatMap_def]
  refine .inl (respelled.isAlphanumeric kept ?_)
  rw [List.flatMap_def]
  exact List.mem_flatten_of_mem among inside

end TreeSchema.Text
