import TreeSchema.Text.CharClass

/-!
Quoted text. A quoted text has no line break and no double quote inside it, whatever it stands
for: what cannot stand for itself is written as an escape.
-/

namespace TreeSchema.Text

/-- Digits of a number in base sixteen, without leading zeros. -/
def hexDigits (n : Nat) : List Char :=
  Nat.toDigits 16 n

/-- One character as it stands between the quotes. -/
def escapeChar (c : Char) : List Char :=
  if c = '"' then ['\\', '"']
  else if c = '\\' then ['\\', '\\']
  else if c = '\x00' then ['\\', '0']
  else if c = '\t' then ['\\', 't']
  else if c = '\r' then ['\\', 'r']
  else if c = '\n' then ['\\', 'n']
  else if isShown c then [c]
  else ['\\', 'u', '{'] ++ hexDigits c.toNat ++ ['}']

def quotedChars (text : List Char) : List Char :=
  '"' :: text.flatMap escapeChar ++ ['"']

/-- The text between double quotes, escaped. -/
def quoted (text : String) : String :=
  String.ofList (quotedChars text.toList)

end TreeSchema.Text
