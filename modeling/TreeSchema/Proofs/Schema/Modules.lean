import Mathlib.Data.List.NodupEquivFin
import TreeSchema.Proofs.Schema.Defects
import TreeSchema.Proofs.Text.Styles

/-!
The modules that categories get by default. The name of a category can be read off the module made
from it, so that two categories share a module only if they have the same name or one of them says
its module.
-/

namespace TreeSchema

open Text

variable {schema : Schema} {category first second : Category} {name module : String}

/-! ### Names -/

namespace NameStyle

/-- A type's name makes a well-written name in snake case. -/
theorem accepts_snakeCase (ascii : IsAscii name.toList)
    (written : NameStyle.pascal.accepts name = true) :
    NameStyle.snake.accepts (snakeCase name) = true := by
  have stays : snakeCase (snakeCase name) = snakeCase name := by
    rw [snakeCase, snakeCase, String.toList_ofList, snakeCaseChars_snakeCaseChars ascii]
  simp only [accepts, Bool.and_eq_true] at written ⊢
  refine ⟨?_, beq_iff_eq.mpr stays⟩
  rw [snakeCase, String.toList_ofList]
  cases chars : name.toList with
  | nil => simp [chars] at written
  | cons c rest =>
    rw [chars] at ascii written
    have capital : c.isUpper = true := written.1
    have small : c.toNat < 128 := ascii c List.mem_cons_self
    have kind : isAlphanumeric c = true ∧ c.toLower.isLower = true :=
      forall_ascii (p := fun c => c.isUpper = true →
        isAlphanumeric c = true ∧ c.toLower.isLower = true) (by decide +kernel) small capital
    rw [head?_snakeCaseChars ascii kind.1]
    exact kind.2

/-- Converting the name back gives the type's name again. -/
theorem pascalCase_snakeCase (ascii : IsAscii name.toList)
    (written : NameStyle.pascal.accepts name = true) : pascalCase (snakeCase name) = name := by
  rw [pascalCase, snakeCase, String.toList_ofList, pascalCaseChars_snakeCaseChars ascii,
    pascalCaseChars_of_accepts written, String.ofList_toList]

end NameStyle

/-! ### Modules -/

namespace Category

/-- The category has a well-written name in ASCII, and leaves its module to the default. -/
structure DefaultsModule (category : Category) : Prop where
  ascii : IsAscii category.name.toList
  written : NameStyle.pascal.accepts category.name = true
  unsaid : category.module = none

theorem DefaultsModule.moduleName_eq (defaults : category.DefaultsModule) :
    category.moduleName = snakeCase category.name := by
  rw [moduleName, defaults.unsaid]
  rfl

theorem DefaultsModule.pascalCase_moduleName (defaults : category.DefaultsModule) :
    pascalCase category.moduleName = category.name := by
  rw [defaults.moduleName_eq]
  exact NameStyle.pascalCase_snakeCase defaults.ascii defaults.written

theorem DefaultsModule.accepts_moduleName (defaults : category.DefaultsModule) :
    NameStyle.snake.accepts category.moduleName = true := by
  rw [defaults.moduleName_eq]
  exact NameStyle.accepts_snakeCase defaults.ascii defaults.written

/-- Categories share a default module only by having the same name. -/
theorem DefaultsModule.name_eq (one : first.DefaultsModule) (other : second.DefaultsModule)
    (same : first.moduleName = second.moduleName) : first.name = second.name := by
  rw [← one.pascalCase_moduleName, same, other.pascalCase_moduleName]

end Category

/-! ### Schemas -/

theorem exists_of_two_le_count {α β : Type} [DecidableEq β] {f : α → β} {list : List α} {b : β}
    (twice : 2 ≤ (list.map f).count b) :
    ∃ (i j : Nat) (x y : α), i < j ∧ list[i]? = some x ∧ list[j]? = some y ∧ f x = b ∧ f y = b := by
  rw [← List.duplicate_iff_two_le_count, List.duplicate_iff_exists_distinct_get] at twice
  obtain ⟨i, j, before, atFirst, atSecond⟩ := twice
  have firstInside : i < list.length := by simpa using i.isLt
  have secondInside : j < list.length := by simpa using j.isLt
  refine ⟨i, j, list[i], list[j], before, ?_, ?_, ?_, ?_⟩
  · exact List.getElem?_eq_getElem firstInside
  · exact List.getElem?_eq_getElem secondInside
  · simpa using atFirst.symm
  · simpa using atSecond.symm

namespace Schema

/-- A module that is reported as taken twice is that of two categories. -/
theorem exists_of_duplicateModule (refused : schema.check = .error (.duplicateModule module)) :
    ∃ (c d : Nat) (first second : Category), c < d ∧ schema.categories[c]? = some first ∧
      schema.categories[d]? = some second ∧ first.moduleName = module ∧
      second.moduleName = module := by
  apply exists_of_two_le_count
  change schema.HasDefect (.duplicateModule module)
  rcases check_eq_error_iff.mp refused with names | ⟨index, names, nodes | ⟨-, embedding⟩⟩
  · exact hasDefect_of_checkNames [] rfl (List.nil_subset _) (List.nil_subset _) names
  · exact hasDefect_of_checkNodes names nodes
  · obtain ⟨record, path, cycle, -⟩ :=
      exists_of_checkEmbedding_eq_error (isIndex_of_checkNames names) embedding
    cases cycle

end Schema

/-- Default modules are well written and can be converted back to the names of the categories, which
they tell apart. Where the check reports a module twice, the two categories have the same name, or
one of them says its module or has no plain name. -/
theorem Category.default_modules_apart :
    (∀ category : Category, category.DefaultsModule →
      NameStyle.snake.accepts category.moduleName = true ∧
      pascalCase category.moduleName = category.name) ∧
    (∀ first second : Category, first.DefaultsModule → second.DefaultsModule →
      first.name ≠ second.name → first.moduleName ≠ second.moduleName) ∧
    ∀ (schema : Schema) (module : String), schema.check = .error (.duplicateModule module) →
      ∃ (c d : Nat) (first second : Category), c < d ∧ schema.categories[c]? = some first ∧
        schema.categories[d]? = some second ∧ first.moduleName = module ∧
        second.moduleName = module ∧
        (first.DefaultsModule → second.DefaultsModule → first.name = second.name) := by
  refine ⟨fun category defaults => ?legal, fun first second one other different => ?apart,
    fun schema module refused => ?reported⟩
  case legal => exact ⟨defaults.accepts_moduleName, defaults.pascalCase_moduleName⟩
  case apart =>
    intro same
    exact different (one.name_eq other same)
  case reported =>
    obtain ⟨c, d, first, second, before, atFirst, atSecond, rfl, same⟩ :=
      Schema.exists_of_duplicateModule refused
    refine ⟨c, d, first, second, before, atFirst, atSecond, rfl, same, ?_⟩
    intro one other
    exact one.name_eq other same.symm

/-- Digits and lone capitals part words differently in the first two names. Two categories have the
same module where one of them says the default of the other. -/
theorem Category.default_modules_apart_of_digits :
    let first : Category := ⟨"A1Bc", none, [⟨"NumberExpr", "Number", [⟨"token", .token⟩],
      .template "{}" ["token"]⟩]⟩
    let second : Category := ⟨"ABc1", none, first.nodes⟩
    let third : Category := ⟨"Stmt", some "a1_bc", first.nodes⟩
    (NameStyle.snake.accepts first.moduleName = true ∧ pascalCase first.moduleName = "A1Bc") ∧
    first.moduleName ≠ second.moduleName ∧
    (⟨{}, [first, third]⟩ : Schema).check = .error (.duplicateModule "a1_bc") ∧
    ¬third.DefaultsModule := by
  intro first second third
  obtain ⟨legal, apart, reported⟩ := Category.default_modules_apart
  have one : first.DefaultsModule := ⟨by decide +kernel, by decide +kernel, rfl⟩
  have other : second.DefaultsModule := ⟨by decide +kernel, by decide +kernel, rfl⟩
  have refused : (⟨{}, [first, third]⟩ : Schema).check = .error (.duplicateModule "a1_bc") := by
    decide +kernel
  refine ⟨legal first one, apart first second one other (by decide), refused, ?_⟩
  intro unsaid
  obtain ⟨c, d, left, right, before, atLeft, atRight, -, -, named⟩ := reported _ _ refused
  have inside : d < 2 := (List.getElem?_eq_some_iff.mp atRight).1
  obtain ⟨rfl, rfl⟩ : c = 0 ∧ d = 1 := by omega
  cases atLeft
  cases atRight
  exact absurd (named one unsaid) (by decide)

end TreeSchema
