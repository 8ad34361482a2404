import TreeSchema.Proofs.Units.Reading

/-!
Reading the paths that a unit uses: the module a path leads to and the names it brings from there.
-/

namespace TreeSchema

open Source

namespace Source

variable {scope module name path : String} {names : List String} {front back chars : List Char}

/-! ### Reading paths -/

/-- The parts of code between commas, each followed by a space. -/
def splitNames : List Char → List (List Char)
  | [] => [[]]
  | ',' :: ' ' :: rest => [] :: splitNames rest
  | c :: rest => (splitNames rest).modifyHead (c :: ·)

/-- The names at the end of a path: several of them stand in braces. -/
def readGroup? (code : List Char) : Option (List String) :=
  match between? "\x7b" "\x7d" code with
  | some group => (splitNames group).mapM name?
  | none => (name? code).map ([·])

/-- The module that a path leads to, and the names that it imports from there. -/
def readImport? (path : String) : Option (String × List String) := do
  let module ← between? "" ("::" ++ simpleName path) path.toList
  let names ← readGroup? (simpleName path).toList
  return (String.ofList module, names)

/-! ### Segments -/

theorem afterColons?_eq_none (plain : ':' ∉ back) : afterColons? back = none := by
  induction back with
  | nil => rfl
  | cons c rest ih =>
    obtain ⟨other, later⟩ := List.ne_and_not_mem_of_not_mem_cons plain
    rw [afterColons?, if_neg fun both => other both.1.symm, ih later]

theorem afterColons?_append (plain : ':' ∉ back) :
    afterColons? (front ++ ':' :: ':' :: back) = some back := by
  induction front with
  | nil =>
    have single : afterColons? (':' :: back) = none := by
      have next : back.head? ≠ some ':' := fun head => plain (List.mem_of_head? head)
      rw [afterColons?, if_neg fun both => next both.2, afterColons?_eq_none plain]
    rw [List.nil_append, afterColons?, if_pos ⟨rfl, rfl⟩, single]
    rfl
  | cons c front ih =>
    rw [List.cons_append, afterColons?, ih]
    split <;> rfl

/-- The last segment of a path is what follows the last colons. -/
theorem simpleName_append (scope name : String) (plain : ':' ∉ name.toList) :
    simpleName (scope ++ "::" ++ name) = name := by
  have chars : (scope ++ "::" ++ name).toList = scope.toList ++ ':' :: ':' :: name.toList := by
    simp
  simp only [simpleName, chars, afterColons?_append plain, String.ofList_toList]

/-! ### Names in a group -/

theorem splitNames_cons {c : Char} (other : c ≠ ',') :
    splitNames (c :: chars) = (splitNames chars).modifyHead (c :: ·) := by
  rw [splitNames]
  rintro rest rfl
  exact absurd rfl other

theorem splitNames_append (plain : ',' ∉ front) (rest : List Char) :
    splitNames (front ++ ',' :: ' ' :: rest) = front :: splitNames rest := by
  induction front with
  | nil => rfl
  | cons c front ih =>
    obtain ⟨other, later⟩ := List.ne_and_not_mem_of_not_mem_cons plain
    rw [List.cons_append, splitNames_cons (Ne.symm other), ih later]
    rfl

theorem splitNames_eq_singleton (plain : ',' ∉ chars) : splitNames chars = [chars] := by
  induction chars with
  | nil => rfl
  | cons c chars ih =>
    obtain ⟨other, later⟩ := List.ne_and_not_mem_of_not_mem_cons plain
    rw [splitNames_cons (Ne.symm other), ih later]
    rfl

theorem PlainName.not_mem {c : Char} (isName : PlainName name) (other : inName c = false) :
    c ∉ name.toList := by
  intro member
  rw [isName c member] at other
  cases other

theorem splitNames_commaSeparated (isName : ∀ name ∈ names, PlainName name)
    (nonempty : names ≠ []) :
    splitNames (commaSeparated names).toList = names.map String.toList := by
  induction names with
  | nil => exact absurd rfl nonempty
  | cons first others ih =>
    obtain ⟨isFirst, areNames⟩ := List.forall_mem_cons.mp isName
    have plain := isFirst.not_mem (c := ',') (by decide)
    cases others with
    | nil => simpa [commaSeparated] using splitNames_eq_singleton plain
    | cons second others =>
      have inside := ih areNames (List.cons_ne_nil _ _)
      have chars : (commaSeparated (first :: second :: others)).toList =
          first.toList ++ ',' :: ' ' :: (commaSeparated (second :: others)).toList := by
        simp [commaSeparated]
      rw [chars, splitNames_append plain, inside]
      rfl

/-! ### Lines of other units -/

theorem readGroup?_name (isName : PlainName name) : readGroup? name.toList = some [name] := by
  have bare : between? "\x7b" "\x7d" name.toList = none := by
    refine Option.eq_none_iff_forall_ne_some.mpr fun inner found => ?_
    have opening : '\x7b' ∈ name.toList := by
      rw [between?_eq_some_iff.mp found]
      exact List.mem_cons_self
    exact isName.not_mem (by decide) opening
  rw [readGroup?, bare]
  simp only [name?_eq isName, Option.map_some]

theorem mapM_name? (isName : ∀ name ∈ names, PlainName name) :
    (names.map String.toList).mapM name? = some names := by
  rw [mapM_eq_some_iff_forall₂, List.forall₂_map_left_iff, List.forall₂_same]
  exact fun name member => name?_eq (isName name member)

theorem readGroup?_group (isName : ∀ name ∈ names, PlainName name) (nonempty : names ≠ []) :
    readGroup? ("\x7b" ++ commaSeparated names ++ "\x7d").toList = some names := by
  have found := between?_append "\x7b" "\x7d" (commaSeparated names).toList
  rw [String.append_assoc, String.toList_append, String.toList_append, readGroup?, found]
  simp only [splitNames_commaSeparated isName nonempty, mapM_name? isName]

theorem readImport?_append (front : String) {group : String} (plain : ':' ∉ group.toList)
    (read : readGroup? group.toList = some names) :
    readImport? (front ++ "::" ++ group) = some (front, names) := by
  have found : between? "" ("::" ++ group) (front ++ "::" ++ group).toList = some front.toList := by
    rw [between?_eq_some_iff]
    simp
  rw [readImport?, simpleName_append front group plain, found, Option.bind_eq_bind,
    Option.bind_some, read, String.ofList_toList]
  rfl

theorem not_mem_commaSeparated (isName : ∀ name ∈ names, PlainName name) :
    ':' ∉ (commaSeparated names).toList := by
  intro member
  rw [commaSeparated, String.toList_intercalate] at member
  rcases Text.mem_of_mem_intercalate member with between | ⟨chars, among, inside⟩
  · exact absurd between (by decide)
  · obtain ⟨name, within, rfl⟩ := List.mem_map.mp among
    exact (isName name within).not_mem (by decide) inside

/-- The line of another unit is read as its module and the names that it brings. -/
theorem readImport?_target (isName : ∀ name ∈ names, PlainName name) (nonempty : names ≠ []) :
    readImport? (Import.sibling scope module names).target =
      some (scope ++ "::" ++ module, names) := by
  match names with
  | [] => exact absurd rfl nonempty
  | [name] =>
    obtain ⟨isName, -⟩ := List.forall_mem_cons.mp isName
    exact readImport?_append _ (isName.not_mem (by decide)) (readGroup?_name isName)
  | first :: second :: others =>
    have plain : ':' ∉ ("\x7b" ++ commaSeparated (first :: second :: others) ++ "\x7d").toList := by
      simpa using not_mem_commaSeparated isName
    exact readImport?_append _ plain (readGroup?_group isName nonempty)

end Source

end TreeSchema
