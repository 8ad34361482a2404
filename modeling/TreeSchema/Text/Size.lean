/-!
Sizes in bytes.
-/

namespace TreeSchema.Text

/-- The number of bytes that the characters take in UTF-8. -/
def byteSize : List Char → Nat
  | [] => 0
  | c :: rest => c.utf8Size + byteSize rest

/-- The line of byte `offset`, counted from one, and the number of bytes between it and the line
break before it. -/
def lineAndColumn (text : List Char) (offset : Nat) : Nat × Nat :=
  go 1 0 0 text
where
  go (line column here : Nat) : List Char → Nat × Nat
    | [] => (line, column)
    | c :: rest =>
      if offset ≤ here then (line, column)
      else if c = '\n' then go (line + 1) 0 (here + 1) rest
      else if offset < here + c.utf8Size then (line, column + (offset - here))
      else go line (column + c.utf8Size) (here + c.utf8Size) rest

end TreeSchema.Text
