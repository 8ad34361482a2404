import TreeSchema.Schema.Naming
import TreeSchema.Text.CharClass

/-!
Identifiers of the generated code. The characters that may go on in one are close to the letters and
numbers, but neither contain them nor are contained in them.
-/

namespace TreeSchema.Text

/-- Letters and numbers that no identifier has: numbers that are no digits, circled and squared
letters, and forms kept for compatibility. -/
def straySpans : List Span := [
  ⟨0xb2, 0xb3, 1⟩, ⟨0xb9, 0xb9, 1⟩, ⟨0xbc, 0xbe, 1⟩, ⟨0x37a, 0x37a, 1⟩, ⟨0x9f4, 0x9f9, 1⟩,
   ⟨0xb72, 0xb77, 1⟩, ⟨0xbf0, 0xbf2, 1⟩, ⟨0xc78, 0xc7e, 1⟩, ⟨0xd58, 0xd5e, 1⟩, ⟨0xd70, 0xd78, 1⟩,
   ⟨0xf2a, 0xf33, 1⟩, ⟨0x1372, 0x137c, 1⟩, ⟨0x17f0, 0x17f9, 1⟩, ⟨0x2070, 0x2070, 1⟩,
   ⟨0x2074, 0x2079, 1⟩, ⟨0x2080, 0x2089, 1⟩, ⟨0x2150, 0x215f, 1⟩, ⟨0x2189, 0x2189, 1⟩,
   ⟨0x2460, 0x249b, 1⟩, ⟨0x24b6, 0x24ff, 1⟩, ⟨0x2776, 0x2793, 1⟩, ⟨0x2cfd, 0x2cfd, 1⟩,
   ⟨0x2e2f, 0x2e2f, 1⟩, ⟨0x3192, 0x3195, 1⟩, ⟨0x3220, 0x3229, 1⟩, ⟨0x3248, 0x324f, 1⟩,
   ⟨0x3251, 0x325f, 1⟩, ⟨0x3280, 0x3289, 1⟩, ⟨0x32b1, 0x32bf, 1⟩, ⟨0xa830, 0xa835, 1⟩,
   ⟨0xfc5e, 0xfc63, 1⟩, ⟨0xfdfa, 0xfdfb, 1⟩, ⟨0xfe70, 0xfe7e, 2⟩, ⟨0x10107, 0x10133, 1⟩,
   ⟨0x10175, 0x10178, 1⟩, ⟨0x1018a, 0x1018b, 1⟩, ⟨0x102e1, 0x102fb, 1⟩, ⟨0x10320, 0x10323, 1⟩,
   ⟨0x10858, 0x1085f, 1⟩, ⟨0x10879, 0x1087f, 1⟩, ⟨0x108a7, 0x108af, 1⟩, ⟨0x108fb, 0x108ff, 1⟩,
   ⟨0x10916, 0x1091b, 1⟩, ⟨0x109bc, 0x109bd, 1⟩, ⟨0x109c0, 0x109cf, 1⟩, ⟨0x109d2, 0x109ff, 1⟩,
   ⟨0x10a40, 0x10a48, 1⟩, ⟨0x10a7d, 0x10a7e, 1⟩, ⟨0x10a9d, 0x10a9f, 1⟩, ⟨0x10aeb, 0x10aef, 1⟩,
   ⟨0x10b58, 0x10b5f, 1⟩, ⟨0x10b78, 0x10b7f, 1⟩, ⟨0x10ba9, 0x10baf, 1⟩, ⟨0x10cfa, 0x10cff, 1⟩,
   ⟨0x10e60, 0x10e7e, 1⟩, ⟨0x10f1d, 0x10f26, 1⟩, ⟨0x10f51, 0x10f54, 1⟩, ⟨0x10fc5, 0x10fcb, 1⟩,
   ⟨0x11052, 0x11065, 1⟩, ⟨0x111e1, 0x111f4, 1⟩, ⟨0x1173a, 0x1173b, 1⟩, ⟨0x118ea, 0x118f2, 1⟩,
   ⟨0x11c5a, 0x11c6c, 1⟩, ⟨0x11fc0, 0x11fd4, 1⟩, ⟨0x16b5b, 0x16b61, 1⟩, ⟨0x16e80, 0x16e96, 1⟩,
   ⟨0x1d2c0, 0x1d2d3, 1⟩, ⟨0x1d2e0, 0x1d2f3, 1⟩, ⟨0x1d360, 0x1d378, 1⟩, ⟨0x1e8c7, 0x1e8cf, 1⟩,
   ⟨0x1ec71, 0x1ecab, 1⟩, ⟨0x1ecad, 0x1ecaf, 1⟩, ⟨0x1ecb1, 0x1ecb4, 1⟩, ⟨0x1ed01, 0x1ed2d, 1⟩,
   ⟨0x1ed2f, 0x1ed3d, 1⟩, ⟨0x1f100, 0x1f10c, 1⟩, ⟨0x1f130, 0x1f149, 1⟩, ⟨0x1f150, 0x1f169, 1⟩,
   ⟨0x1f170, 0x1f189, 1⟩]

/-- Characters that identifiers go on with though they are neither letters nor numbers: underscores,
marks and a few points. -/
def joiningSpans : List Span := [
  ⟨0x5f, 0x5f, 1⟩, ⟨0xb7, 0xb7, 1⟩, ⟨0x300, 0x344, 1⟩, ⟨0x346, 0x362, 1⟩, ⟨0x387, 0x387, 1⟩,
   ⟨0x483, 0x487, 1⟩, ⟨0x591, 0x5af, 1⟩, ⟨0x658, 0x658, 1⟩, ⟨0x6df, 0x6e0, 1⟩, ⟨0x6ea, 0x6ec, 1⟩,
   ⟨0x740, 0x74a, 1⟩, ⟨0x7eb, 0x7f3, 1⟩, ⟨0x7fd, 0x7fd, 1⟩, ⟨0x818, 0x819, 1⟩, ⟨0x82d, 0x82d, 1⟩,
   ⟨0x859, 0x85b, 1⟩, ⟨0x898, 0x89f, 1⟩, ⟨0x8ca, 0x8d3, 1⟩, ⟨0x8e0, 0x8e1, 1⟩, ⟨0x8ea, 0x8ef, 1⟩,
   ⟨0x93c, 0x93c, 1⟩, ⟨0x94d, 0x94d, 1⟩, ⟨0x951, 0x954, 1⟩, ⟨0x9bc, 0x9bc, 1⟩, ⟨0x9cd, 0x9cd, 1⟩,
   ⟨0x9fe, 0x9fe, 1⟩, ⟨0xa3c, 0xa3c, 1⟩, ⟨0xa4d, 0xa4d, 1⟩, ⟨0xabc, 0xabc, 1⟩, ⟨0xacd, 0xacd, 1⟩,
   ⟨0xafd, 0xaff, 1⟩, ⟨0xb3c, 0xb3c, 1⟩, ⟨0xb4d, 0xb4d, 1⟩, ⟨0xb55, 0xb55, 1⟩, ⟨0xbcd, 0xbcd, 1⟩,
   ⟨0xc3c, 0xc3c, 1⟩, ⟨0xc4d, 0xc4d, 1⟩, ⟨0xcbc, 0xcbc, 1⟩, ⟨0xccd, 0xccd, 1⟩, ⟨0xd3b, 0xd3c, 1⟩,
   ⟨0xd4d, 0xd4d, 1⟩, ⟨0xdca, 0xdca, 1⟩, ⟨0xe47, 0xe4c, 1⟩, ⟨0xe4e, 0xe4e, 1⟩, ⟨0xeba, 0xeba, 1⟩,
   ⟨0xec8, 0xecc, 1⟩, ⟨0xece, 0xece, 1⟩, ⟨0xf18, 0xf19, 1⟩, ⟨0xf35, 0xf39, 2⟩, ⟨0xf3e, 0xf3f, 1⟩,
   ⟨0xf84, 0xf84, 1⟩, ⟨0xf86, 0xf87, 1⟩, ⟨0xfc6, 0xfc6, 1⟩, ⟨0x1037, 0x1037, 1⟩,
   ⟨0x1039, 0x103a, 1⟩, ⟨0x135d, 0x135f, 1⟩, ⟨0x1714, 0x1715, 1⟩, ⟨0x1734, 0x1734, 1⟩,
   ⟨0x17b4, 0x17b5, 1⟩, ⟨0x17c9, 0x17d3, 1⟩, ⟨0x17dd, 0x17dd, 1⟩, ⟨0x180b, 0x180d, 1⟩,
   ⟨0x180f, 0x180f, 1⟩, ⟨0x1939, 0x193b, 1⟩, ⟨0x1a60, 0x1a60, 1⟩, ⟨0x1a75, 0x1a7c, 1⟩,
   ⟨0x1a7f, 0x1a7f, 1⟩, ⟨0x1ab0, 0x1abd, 1⟩, ⟨0x1ac1, 0x1acb, 1⟩, ⟨0x1acf, 0x1add, 1⟩,
   ⟨0x1ae0, 0x1aeb, 1⟩, ⟨0x1b34, 0x1b34, 1⟩, ⟨0x1b44, 0x1b44, 1⟩, ⟨0x1b6b, 0x1b73, 1⟩,
   ⟨0x1baa, 0x1bab, 1⟩, ⟨0x1be6, 0x1be6, 1⟩, ⟨0x1bf2, 0x1bf3, 1⟩, ⟨0x1c37, 0x1c37, 1⟩,
   ⟨0x1cd0, 0x1cd2, 1⟩, ⟨0x1cd4, 0x1ce8, 1⟩, ⟨0x1ced, 0x1ced, 1⟩, ⟨0x1cf4, 0x1cf4, 1⟩,
   ⟨0x1cf7, 0x1cf9, 1⟩, ⟨0x1dc0, 0x1dd2, 1⟩, ⟨0x1df5, 0x1dff, 1⟩, ⟨0x200c, 0x200d, 1⟩,
   ⟨0x203f, 0x2040, 1⟩, ⟨0x2054, 0x2054, 1⟩, ⟨0x20d0, 0x20dc, 1⟩, ⟨0x20e1, 0x20e1, 1⟩,
   ⟨0x20e5, 0x20f0, 1⟩, ⟨0x2118, 0x2118, 1⟩, ⟨0x212e, 0x212e, 1⟩, ⟨0x2cef, 0x2cf1, 1⟩,
   ⟨0x2d7f, 0x2d7f, 1⟩, ⟨0x302a, 0x302f, 1⟩, ⟨0x3099, 0x309a, 1⟩, ⟨0x30fb, 0x30fb, 1⟩,
   ⟨0xa66f, 0xa66f, 1⟩, ⟨0xa67c, 0xa67d, 1⟩, ⟨0xa6f0, 0xa6f1, 1⟩, ⟨0xa806, 0xa806, 1⟩,
   ⟨0xa82c, 0xa82c, 1⟩, ⟨0xa8c4, 0xa8c4, 1⟩, ⟨0xa8e0, 0xa8f1, 1⟩, ⟨0xa92b, 0xa92d, 1⟩,
   ⟨0xa953, 0xa953, 1⟩, ⟨0xa9b3, 0xa9b3, 1⟩, ⟨0xa9c0, 0xa9c0, 1⟩, ⟨0xaabf, 0xaac1, 2⟩,
   ⟨0xaaf6, 0xaaf6, 1⟩, ⟨0xabec, 0xabed, 1⟩, ⟨0xfe00, 0xfe0f, 1⟩, ⟨0xfe20, 0xfe2f, 1⟩,
   ⟨0xfe33, 0xfe34, 1⟩, ⟨0xfe4d, 0xfe4f, 1⟩, ⟨0xff3f, 0xff3f, 1⟩, ⟨0xff65, 0xff65, 1⟩,
   ⟨0x101fd, 0x101fd, 1⟩, ⟨0x102e0, 0x102e0, 1⟩, ⟨0x10a38, 0x10a3a, 1⟩, ⟨0x10a3f, 0x10a3f, 1⟩,
   ⟨0x10ae5, 0x10ae6, 1⟩, ⟨0x10d6a, 0x10d6d, 1⟩, ⟨0x10efd, 0x10eff, 1⟩, ⟨0x10f46, 0x10f50, 1⟩,
   ⟨0x10f82, 0x10f85, 1⟩, ⟨0x11046, 0x11046, 1⟩, ⟨0x11070, 0x11070, 1⟩, ⟨0x1107f, 0x1107f, 1⟩,
   ⟨0x110b9, 0x110ba, 1⟩, ⟨0x11133, 0x11134, 1⟩, ⟨0x11173, 0x11173, 1⟩, ⟨0x111c0, 0x111c0, 1⟩,
   ⟨0x111c9, 0x111cc, 1⟩, ⟨0x11235, 0x11236, 1⟩, ⟨0x112e9, 0x112ea, 1⟩, ⟨0x1133b, 0x1133c, 1⟩,
   ⟨0x1134d, 0x1134d, 1⟩, ⟨0x11366, 0x1136c, 1⟩, ⟨0x11370, 0x11374, 1⟩, ⟨0x113ce, 0x113d0, 1⟩,
   ⟨0x113d2, 0x113d2, 1⟩, ⟨0x113e1, 0x113e2, 1⟩, ⟨0x11442, 0x11442, 1⟩, ⟨0x11446, 0x11446, 1⟩,
   ⟨0x1145e, 0x1145e, 1⟩, ⟨0x114c2, 0x114c3, 1⟩, ⟨0x115bf, 0x115c0, 1⟩, ⟨0x1163f, 0x1163f, 1⟩,
   ⟨0x116b6, 0x116b7, 1⟩, ⟨0x1172b, 0x1172b, 1⟩, ⟨0x11839, 0x1183a, 1⟩, ⟨0x1193d, 0x1193e, 1⟩,
   ⟨0x11943, 0x11943, 1⟩, ⟨0x119e0, 0x119e0, 1⟩, ⟨0x11a33, 0x11a34, 1⟩, ⟨0x11a47, 0x11a47, 1⟩,
   ⟨0x11a98, 0x11a99, 1⟩, ⟨0x11c3f, 0x11c3f, 1⟩, ⟨0x11d42, 0x11d42, 1⟩, ⟨0x11d44, 0x11d45, 1⟩,
   ⟨0x11d97, 0x11d97, 1⟩, ⟨0x11f41, 0x11f42, 1⟩, ⟨0x11f5a, 0x11f5a, 1⟩, ⟨0x13440, 0x13440, 1⟩,
   ⟨0x13447, 0x13455, 1⟩, ⟨0x1612f, 0x1612f, 1⟩, ⟨0x16af0, 0x16af4, 1⟩, ⟨0x16b30, 0x16b36, 1⟩,
   ⟨0x16fe4, 0x16fe4, 1⟩, ⟨0x1bc9d, 0x1bc9d, 1⟩, ⟨0x1cf00, 0x1cf2d, 1⟩, ⟨0x1cf30, 0x1cf46, 1⟩,
   ⟨0x1d165, 0x1d169, 1⟩, ⟨0x1d16d, 0x1d172, 1⟩, ⟨0x1d17b, 0x1d182, 1⟩, ⟨0x1d185, 0x1d18b, 1⟩,
   ⟨0x1d1aa, 0x1d1ad, 1⟩, ⟨0x1d242, 0x1d244, 1⟩, ⟨0x1da00, 0x1da36, 1⟩, ⟨0x1da3b, 0x1da6c, 1⟩,
   ⟨0x1da75, 0x1da75, 1⟩, ⟨0x1da84, 0x1da84, 1⟩, ⟨0x1da9b, 0x1da9f, 1⟩, ⟨0x1daa1, 0x1daaf, 1⟩,
   ⟨0x1e130, 0x1e136, 1⟩, ⟨0x1e2ae, 0x1e2ae, 1⟩, ⟨0x1e2ec, 0x1e2ef, 1⟩, ⟨0x1e4ec, 0x1e4ef, 1⟩,
   ⟨0x1e5ee, 0x1e5ef, 1⟩, ⟨0x1e8d0, 0x1e8d6, 1⟩, ⟨0x1e944, 0x1e946, 1⟩, ⟨0x1e948, 0x1e94a, 1⟩,
   ⟨0xe0100, 0xe01ef, 1⟩]

/-- The characters that may follow in an identifier. -/
def continuesIdentifier (c : Char) : Bool :=
  (isAlphanumeric c || inSpans joiningSpans c) && !inSpans straySpans c

/-- A legal name that starts with an ASCII letter. -/
def IsIdentifier (name : String) : Prop :=
  name ∉ keywords ∧ ∃ first rest, name.toList = first :: rest ∧ first.isAlpha = true ∧
    ∀ c ∈ rest, continuesIdentifier c = true

theorem continuesIdentifier_iff {c : Char} (kind : isAlphanumeric c = true ∨ c = '_') :
    continuesIdentifier c = true ↔ inSpans straySpans c = false := by
  have either : isAlphanumeric c = true ∨ inSpans joiningSpans c = true := by
    rcases kind with letter | rfl
    · exact .inl letter
    · exact .inr (by decide)
  simp [continuesIdentifier, either]

end TreeSchema.Text
