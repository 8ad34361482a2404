/-!
Reading bytes as UTF-8 whatever they are. The longest start of a character that cannot go on is
replaced as a whole.
-/

namespace TreeSchema.Text

/-- The character that stands for bytes that are no UTF-8. -/
def replacement : Char := '\ufffd'

/-- A character of which some bytes have been read: how many are left, between which values the next
one must be, and the bits so far. -/
structure Pending where
  left : Nat
  low : Nat
  high : Nat
  bits : Nat

/-- What a first byte starts. -/
inductive Start where
  | char (c : Char)
  | pending (pending : Pending)
  | bad

def startByte (byte : Nat) : Start :=
  if byte < 0x80 then .char (Char.ofNat byte)
  else if byte < 0xc2 then .bad
  else if byte < 0xe0 then .pending ⟨1, 0x80, 0xbf, byte - 0xc0⟩
  else if byte = 0xe0 then .pending ⟨2, 0xa0, 0xbf, 0⟩
  else if byte = 0xed then .pending ⟨2, 0x80, 0x9f, 0xd⟩
  else if byte < 0xf0 then .pending ⟨2, 0x80, 0xbf, byte - 0xe0⟩
  else if byte = 0xf0 then .pending ⟨3, 0x90, 0xbf, 0⟩
  else if byte < 0xf4 then .pending ⟨3, 0x80, 0xbf, byte - 0xf0⟩
  else if byte = 0xf4 then .pending ⟨3, 0x80, 0x8f, 4⟩
  else .bad

/-- The characters of bytes that come after a partial character. -/
def decodeBytes : Option Pending → List UInt8 → List Char
  | none, [] => []
  | some _, [] => [replacement]
  | none, byte :: rest =>
    match startByte byte.toNat with
    | .char c => c :: decodeBytes none rest
    | .pending pending => decodeBytes (some pending) rest
    | .bad => replacement :: decodeBytes none rest
  | some p, byte :: rest =>
    let b := byte.toNat
    if p.low ≤ b ∧ b ≤ p.high then
      let bits := p.bits * 64 + (b - 0x80)
      if p.left ≤ 1 then Char.ofNat bits :: decodeBytes none rest
      else decodeBytes (some ⟨p.left - 1, 0x80, 0xbf, bits⟩) rest
    else
      match startByte b with
      | .char c => replacement :: c :: decodeBytes none rest
      | .pending pending => replacement :: decodeBytes (some pending) rest
      | .bad => replacement :: replacement :: decodeBytes none rest

/-- The bytes as text, bad ones replaced. -/
def decodeLossy (bytes : ByteArray) : String :=
  String.ofList (decodeBytes none bytes.toList)

end TreeSchema.Text
