import TreeSchema.Text.Tables.Alphanumeric
import TreeSchema.Text.Tables.Lowercase
import TreeSchema.Text.Tables.Uppercase
import TreeSchema.Text.Tables.Unprintable
import TreeSchema.Text.Tables.Extending
import TreeSchema.Text.Tables.Casing

/-!
Character classes and case mappings. Each class answers ASCII without its table.
-/

namespace TreeSchema.Text

/-- Letters and numbers, the characters of words. -/
def isAlphanumeric (c : Char) : Bool :=
  if c.toNat < 128 then c.isAlphanum else inSpans alphanumericSpans c

def isLowercase (c : Char) : Bool :=
  if c.toNat < 128 then c.isLower else inSpans lowercaseSpans c

def isUppercase (c : Char) : Bool :=
  if c.toNat < 128 then c.isUpper else inSpans uppercaseSpans c

/-- Blank characters, the ones that are cut off the ends of a text. -/
def isBlank (c : Char) : Bool :=
  if c.toNat < 128 then c == ' ' || (9 ≤ c.toNat && c.toNat ≤ 13)
  else inSpans
    [⟨0x85, 0x85, 1⟩, ⟨0xa0, 0xa0, 1⟩, ⟨0x1680, 0x1680, 1⟩, ⟨0x2000, 0x200a, 1⟩,
     ⟨0x2028, 0x2029, 1⟩, ⟨0x202f, 0x202f, 1⟩, ⟨0x205f, 0x205f, 1⟩, ⟨0x3000, 0x3000, 1⟩] c

/-- Characters that show as themselves wherever they stand in a quoted text. -/
def isShown (c : Char) : Bool :=
  if c.toNat < 128 then 32 ≤ c.toNat && c.toNat < 127
  else !inSpans unprintableSpans c && !inSpans extendingSpans c

/-- The image of a character under a table of shifts and a table of longer images. -/
def caseImage (shifts : List Shift) (longer : List (Nat × List Nat)) (c : Char) : List Char :=
  match longer.lookup c.toNat with
  | some image => image.map Char.ofNat
  | none =>
    match shifts.findSome? (·.image? c.toNat) with
    | some point => [Char.ofNat point]
    | none => [c]

def lower (c : Char) : List Char :=
  if c.toNat < 128 then [c.toLower] else caseImage lowerShifts lowerLonger c

def upper (c : Char) : List Char :=
  if c.toNat < 128 then [c.toUpper] else caseImage upperShifts upperLonger c

end TreeSchema.Text
