import TreeSchema.Text.Lossy

/-!
Bytes as text. In a text of octets every character is below 256 and stands for one byte, so that
what is counted, cut or matched are bytes.
-/

namespace TreeSchema.Text

abbrev Octets := String

/-- The bytes as a text of octets. -/
def Octets.ofBytes (bytes : ByteArray) : Octets :=
  String.ofList (bytes.toList.map fun byte => Char.ofNat byte.toNat)

/-- The UTF-8 form of a text. -/
def Octets.encode (text : String) : Octets :=
  if text.toList.all (·.toNat < 128) then text else .ofBytes text.toUTF8

/-- The bytes that the characters stand for. -/
def Octets.bytes (octets : Octets) : ByteArray :=
  ⟨(octets.toList.map fun c => UInt8.ofNat c.toNat).toArray⟩

/-- The text of which the octets are the UTF-8 form, what is none being replaced. -/
def Octets.decode (octets : Octets) : String :=
  if octets.toList.all (·.toNat < 128) then octets else decodeLossy octets.bytes

end TreeSchema.Text
