import Mathlib.Data.List.Nodup
import TreeSchema.Output
import TreeSchema.Proofs.Store.Changes

/-!
The file names of units. A module without a point can be read off each of its three names, so units
with different modules share none of them.
-/

namespace TreeSchema

open Store

theorem eq_of_append_cons_eq {α : Type} {c : α} {front other back rest : List α} (h : c ∉ front)
    (h' : c ∉ other) (same : front ++ c :: back = other ++ c :: rest) :
    front = other ∧ back = rest := by
  induction front generalizing other with
  | nil =>
    cases other with
    | nil => exact ⟨rfl, (List.cons.inj same).2⟩
    | cons d others => exact absurd (List.cons.inj same).1 fun equal => h' (by simp [equal])
  | cons d others ih =>
    cases other with
    | nil => exact absurd (List.cons.inj same).1 fun equal => h (by simp [equal])
    | cons e others' =>
      obtain ⟨rfl, tail⟩ := List.cons.inj same
      simp only [List.mem_cons, not_or] at h h'
      obtain ⟨rfl, equal⟩ := ih h.2 h'.2 tail
      exact ⟨rfl, equal⟩

namespace SourceUnit

variable {unit other : SourceUnit} {directory : String} {store : Store} {path here : Path}

/-- The module can be part of a file name, and what is added to it can be told from it. -/
structure Nameable (unit : SourceUnit) : Prop where
  noPoint : '.' ∉ unit.module.toList
  noSlash : '/' ∉ unit.module.toList
  noNul : '\x00' ∉ unit.module.toList

/-- What files of units are called after their modules. -/
def suffixes : List String := [".tmp.rs", ".rs", ".old.rs"]

def fileNames (unit : SourceUnit) : List String :=
  suffixes.map (unit.module ++ ·)

theorem toList_of_mem_suffixes {suffix : String} (h : suffix ∈ suffixes) :
    ∃ rest, suffix.toList = '.' :: rest ∧ 's' ∈ rest ∧ '/' ∉ rest ∧ '\x00' ∉ rest := by
  simp only [suffixes, List.mem_cons, List.not_mem_nil, or_false] at h
  rcases h with rfl | rfl | rfl
  · exact ⟨"tmp.rs".toList, rfl, by decide⟩
  · exact ⟨"rs".toList, rfl, by decide⟩
  · exact ⟨"old.rs".toList, rfl, by decide⟩

theorem Nameable.isName (h : unit.Nameable) {suffix : String} (known : suffix ∈ suffixes) :
    IsName (unit.module ++ suffix) := by
  obtain ⟨rest, chars, letter, noSlash, -⟩ := toList_of_mem_suffixes known
  have letter : 's' ∈ (unit.module ++ suffix).toList := by
    simp [String.toList_append, chars, letter]
  refine ⟨?_, ?_, ?_, ?_⟩
  · intro same
    simp [same] at letter
  · simpa [String.toList_append, chars, h.noSlash] using noSlash
  · intro same
    simp [same] at letter
  · intro same
    simp [same] at letter

theorem Nameable.noNul_fileName (h : unit.Nameable) {suffix : String} (known : suffix ∈ suffixes) :
    '\x00' ∉ (unit.module ++ suffix).toList := by
  obtain ⟨rest, chars, -, -, noNul⟩ := toList_of_mem_suffixes known
  simpa [String.toList_append, chars, h.noNul] using noNul

theorem Nameable.eq_of_append_eq (h : unit.Nameable) (h' : other.Nameable)
    {suffix ending : String} (known : suffix ∈ suffixes) (known' : ending ∈ suffixes)
    (same : unit.module ++ suffix = other.module ++ ending) :
    unit.module = other.module ∧ suffix = ending := by
  obtain ⟨rest, chars, -⟩ := toList_of_mem_suffixes known
  obtain ⟨rest', chars', -⟩ := toList_of_mem_suffixes known'
  have lists := congrArg String.toList same
  rw [String.toList_append, String.toList_append, chars, chars'] at lists
  obtain ⟨modules, rests⟩ := eq_of_append_cons_eq h.noPoint h'.noPoint lists
  exact ⟨String.toList_inj.mp modules, String.toList_inj.mp (by rw [chars, chars', rests])⟩

/-- Units that can be written side by side. -/
structure Separate (units : List SourceUnit) : Prop where
  nameable : ∀ unit ∈ units, unit.Nameable
  distinct : (units.map (·.module)).Nodup

theorem Separate.tail {units : List SourceUnit} (h : Separate (unit :: units)) : Separate units :=
  ⟨fun other member => h.nameable other (List.mem_cons_of_mem _ member),
    (List.nodup_cons.mp h.distinct).2⟩

theorem Separate.append_left {front back : List SourceUnit} (h : Separate (front ++ back)) :
    Separate front :=
  ⟨fun other member => h.nameable other (List.mem_append_left _ member),
    (List.nodup_append'.mp (List.map_append ▸ h.distinct)).1⟩

/-- No file name is used twice. -/
theorem Separate.fileNames_nodup {units : List SourceUnit} (h : Separate units) :
    (units.flatMap fileNames).Nodup := by
  refine List.nodup_flatMap.mpr ⟨fun unit member => ?_, ?_⟩
  · refine List.Nodup.map_on (fun suffix known ending known' same => ?_) (by decide)
    have nameable := h.nameable unit member
    exact (nameable.eq_of_append_eq nameable known known' same).2
  · refine (List.pairwise_map.mp h.distinct).imp_of_mem ?_
    intro first second left right different name mine theirs
    obtain ⟨suffix, known, rfl⟩ := List.mem_map.mp mine
    obtain ⟨ending, known', same⟩ := List.mem_map.mp theirs
    exact different ((h.nameable _ left).eq_of_append_eq (h.nameable _ right) known known'
      same.symm).1

end SourceUnit

/-! ### Where the names lead -/

namespace Store

variable {store : Store} {directory name : String} {unit : SourceUnit} {path here : Path}

/-- The text leads to a directory that is there. -/
def Opens (store : Store) (directory : String) (here : Path) : Prop :=
  store.walk (store.base directory) (pathSteps directory) = .ok here ∧
    store.get? here = some .directory

theorem Opens.unique {other : Path} (h : store.Opens directory here)
    (h' : store.Opens directory other) : here = other :=
  Except.ok.inj (h.1.symm.trans h'.1)

/-- The longest of a unit's names leads somewhere only if all do. -/
theorem leads_fileNames (nameable : unit.Nameable)
    (h : store.Leads (joinPath directory (unit.module ++ ".tmp.rs")) path) :
    ∃ here, store.Opens directory here ∧ ∀ suffix ∈ SourceUnit.suffixes,
      store.Leads (joinPath directory (unit.module ++ suffix))
        (here ++ [unit.module ++ suffix]) := by
  have temporary : ".tmp.rs" ∈ SourceUnit.suffixes := by simp [SourceUnit.suffixes]
  have longest := nameable.isName temporary
  obtain ⟨accepted, short, here, reached, found, -⟩ := (resolve_joinPath_iff longest).mp h.resolve
  refine ⟨here, ⟨reached, found⟩, fun suffix known => ?_⟩
  have isName := nameable.isName known
  have le : (unit.module ++ suffix).utf8ByteSize ≤ (unit.module ++ ".tmp.rs").utf8ByteSize := by
    rw [String.utf8ByteSize_append, String.utf8ByteSize_append]
    have bound : ∀ suffix ∈ SourceUnit.suffixes, suffix.utf8ByteSize ≤ ".tmp.rs".utf8ByteSize := by
      decide
    exact Nat.add_le_add_left (bound suffix known) _
  refine ⟨(resolve_joinPath_iff isName).mpr ⟨?_, Nat.le_trans le short, here, reached, found, rfl⟩,
    endsInSlash_joinPath directory isName⟩
  exact checkText_joinPath_of_le longest isName (nameable.noNul_fileName known) le accepted

end Store

end TreeSchema
