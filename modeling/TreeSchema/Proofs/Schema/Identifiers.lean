import TreeSchema.Proofs.Schema.Acceptance
import TreeSchema.Proofs.Text.Identifiers
import TreeSchema.Proofs.Text.Spelling

/-!
Names of accepted schemas as identifiers. No name is checked letter by letter: a name in the right
style is made of letters and numbers, and some of those do not belong into an identifier.
-/

namespace TreeSchema

open Text

variable {schema : Schema} {index : Index} {style : NameStyle} {taken : List String} {name : String}

theorem NameStyle.isAlphanumeric_of_accepts (written : style.accepts name = true) {c : Char}
    (inside : c ∈ name.toList) : isAlphanumeric c = true ∨ style = .snake ∧ c = '_' := by
  cases style with
  | pascal =>
    exact .inl (isAlphanumeric_of_pascalCaseChars (pascalCaseChars_of_accepts written) inside)
  | snake =>
    have kind := isAlphanumeric_of_snakeCaseChars (snakeCaseChars_of_accepts written) inside
    exact kind.imp_right fun underscore => ⟨rfl, underscore⟩

theorem NameStyle.exists_first_of_accepts (written : style.accepts name = true) :
    ∃ first rest, name.toList = first :: rest ∧ first.isAlpha = true := by
  cases chars : name.toList with
  | nil => cases style <;> simp [NameStyle.accepts, chars] at written
  | cons first rest =>
    refine ⟨first, rest, rfl, ?_⟩
    cases style with
    | pascal =>
      simp only [NameStyle.accepts, chars, Bool.and_eq_true] at written
      exact Bool.or_eq_true_iff.mpr (.inl written.1)
    | snake =>
      simp only [NameStyle.accepts, chars, Bool.and_eq_true] at written
      exact Bool.or_eq_true_iff.mpr (.inr written.1)

namespace Schema

/-- The names of an accepted schema are no keywords, start with an ASCII letter and go on with
letters, numbers and, in snake case, underscores. They are identifiers unless one of these letters
and numbers is a stray one. -/
theorem isIdentifier_iff_of_check (checked : schema.check = .ok index)
    (writes : schema.Writes style taken name) :
    name ∉ keywords ∧ ∃ first rest, name.toList = first :: rest ∧ first.isAlpha = true ∧
      (∀ c ∈ rest, isAlphanumeric c = true ∨ style = .snake ∧ c = '_') ∧
      (IsIdentifier name ↔ ∀ c ∈ rest, inSpans straySpans c = false) := by
  have admits := (wellFormed_of_check checked).admits writes
  obtain ⟨first, rest, chars, letter⟩ := NameStyle.exists_first_of_accepts admits.written
  have kinds : ∀ c ∈ rest, isAlphanumeric c = true ∨ style = .snake ∧ c = '_' := by
    intro c inside
    exact NameStyle.isAlphanumeric_of_accepts admits.written
      (chars ▸ List.mem_cons_of_mem _ inside)
  have continues (c : Char) (inside : c ∈ rest) :
      continuesIdentifier c = true ↔ inSpans straySpans c = false :=
    continuesIdentifier_iff ((kinds c inside).imp_right And.right)
  refine ⟨admits.noKeyword, first, rest, chars, letter, kinds, ?legal, ?plain⟩
  case legal =>
    rintro ⟨-, initial, others, same, -, legal⟩ c inside
    obtain ⟨rfl, rfl⟩ := List.cons.inj (chars.symm.trans same)
    exact (continues c inside).mp (legal c inside)
  case plain =>
    intro plain
    exact ⟨admits.noKeyword, first, rest, chars, letter,
      fun c inside => (continues c inside).mpr (plain c inside)⟩

/-- Letters beyond ASCII and digits of other scripts go on in identifiers. -/
theorem isIdentifier_of_umlauts :
    let schema : Schema := ⟨{}, [⟨"Expr", none, [⟨"NumberExpr", "Number",
      [⟨"größe_٣", .token⟩], .template "{}" ["größe_٣"]⟩]⟩]⟩
    ∃ index, schema.check = .ok index ∧ schema.Writes .snake [arenaParameter] "größe_٣" ∧
      IsIdentifier "größe_٣" := by
  intro schema
  have checked : schema.check = .ok ⟨[("NumberExpr", .record 0 0), ("Expr", .union 0)]⟩ :=
    check_eq_ok_of_flat (by decide +kernel) (by decide +kernel) (by decide +kernel)
  let field : Field := ⟨"größe_٣", .token⟩
  have writes : schema.Writes .snake [arenaParameter] field.name :=
    .field List.mem_cons_self List.mem_cons_self List.mem_cons_self
  obtain ⟨-, first, rest, chars, -, -, legal⟩ := isIdentifier_iff_of_check checked writes
  refine ⟨_, checked, writes, legal.mpr fun c inside => ?_⟩
  have plain : "größe_٣".toList.all (fun c => !inSpans straySpans c) = true := by decide +kernel
  simpa using List.all_eq_true.mp plain c (chars ▸ List.mem_cons_of_mem _ inside)

/-- A superscript digit is a number, so no conversion changes it, but identifiers have none. -/
theorem not_isIdentifier_of_superscript :
    let schema : Schema := ⟨{}, [⟨"Expr²", none, [⟨"NumberExpr", "Number", [⟨"token", .token⟩],
      .template "{}" ["token"]⟩]⟩]⟩
    ∃ index, schema.check = .ok index ∧
      schema.Writes .pascal schema.collaborators.reservedNames "Expr²" ∧
      ¬IsIdentifier "Expr²" := by
  intro schema
  have checked : schema.check = .ok ⟨[("NumberExpr", .record 0 0), ("Expr²", .union 0)]⟩ :=
    check_eq_ok_of_flat (by decide +kernel) (by decide +kernel) (by decide +kernel)
  have writes : schema.Writes .pascal schema.collaborators.reservedNames
      (schema.categories.head nofun).name := .category (List.head_mem _)
  refine ⟨_, checked, writes, ?_⟩
  rintro ⟨-, first, rest, chars, -, legal⟩
  obtain ⟨rfl, rfl⟩ := List.cons.inj (chars.symm.trans rfl)
  have stops : continuesIdentifier '²' = false := by decide +kernel
  exact absurd (legal '²' (by decide)) (by simp [stops])

end Schema

end TreeSchema
