import TreeSchema.Text.Quoted

/-!
Interned strings. An interner keeps one entry per text; atoms made from the same entry are the same
atom, and two atoms are equal if their texts are.
-/

namespace TreeSchema.Ast

/-- A text and the number of the entry it came from. -/
structure Atom where
  text : String
  entry : Nat
  deriving Repr

namespace Atom

def SameEntry (a b : Atom) : Prop := a.entry = b.entry

instance (a b : Atom) : Decidable (SameEntry a b) :=
  inferInstanceAs (Decidable (a.entry = b.entry))

instance : BEq Atom := ⟨fun a b => a.text == b.text⟩

/-- Atoms are ordered by their texts. -/
def compare (a b : Atom) : Ordering :=
  if a.text < b.text then .lt else if a.text = b.text then .eq else .gt

def debug (atom : Atom) : String := Text.quoted atom.text

end Atom

/-- The texts that have an entry, and the number of the next entry. Numbers are never used again,
so an atom outlives the interner it is from. -/
structure Interner where
  entries : List (String × Nat)
  next : Nat
  deriving Repr

namespace Interner

def empty : Interner := ⟨[], 0⟩

/-- An interner without entries that does not share numbers with this one. -/
def renew (interner : Interner) : Interner := ⟨[], interner.next⟩

def size (interner : Interner) : Nat := interner.entries.length

def isEmpty (interner : Interner) : Bool := interner.entries.isEmpty

/-- The atom of a text, with a new entry if there is none yet. -/
def intern (interner : Interner) (text : String) : Interner × Atom :=
  match interner.entries.lookup text with
  | some entry => (interner, ⟨text, entry⟩)
  | none =>
    (⟨interner.entries ++ [(text, interner.next)], interner.next + 1⟩, ⟨text, interner.next⟩)

/-- The texts in braces. -/
def debug (interner : Interner) : String :=
  "\x7b" ++ ", ".intercalate (interner.entries.map fun entry => Text.quoted entry.1) ++ "\x7d"

end Interner

end TreeSchema.Ast
