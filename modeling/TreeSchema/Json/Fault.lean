import TreeSchema.Text.Quoted

/-!
What can be wrong with a JSON text, and where.
-/

namespace TreeSchema.Json

/-- What stands in the place of something else. Numbers are kept as they are reported. -/
inductive Found where
  | null
  | boolean (value : Bool)
  | integer (text : String)
  | float (text : String)
  | string (value : String)
  | sequence
  | map
  | unitVariant
  deriving DecidableEq, Repr

def Found.text : Found → String
  | null => "null"
  | boolean value => s!"boolean `{value}`"
  | integer text => s!"integer `{text}`"
  | float text => s!"floating point `{text}`"
  | string value => "string " ++ Text.quoted value
  | sequence => "sequence"
  | map => "map"
  | unitVariant => "unit variant"

/-- The reasons for refusing a text. -/
inductive Cause where
  | unclosedList
  | unclosedObject
  | unclosedString
  | missingValue
  | expectedColon
  | expectedListEnd
  | expectedObjectEnd
  | expectedWord
  | expectedValue
  | invalidEscape
  | invalidNumber
  | numberOutOfRange
  | loneSurrogate
  | unpairedSurrogate
  | controlCharacter
  | keyNotString
  | trailingComma
  | trailingCharacters
  | tooDeep
  | invalidType (found : Found) (expected : String)
  | invalidLength (length : Nat) (expected : String)
  | unknownVariant (name : String) (known : List String)
  | missingField (name : String)
  | duplicateField (name : String)
  deriving DecidableEq, Repr

namespace Cause

/-- The names of a choice, as a sentence lists them. -/
def choice : List String → String
  | [a, b] => s!"expected `{a}` or `{b}`"
  | names => "expected one of " ++ ", ".intercalate (names.map fun name => s!"`{name}`")

def message : Cause → String
  | unclosedList => "EOF while parsing a list"
  | unclosedObject => "EOF while parsing an object"
  | unclosedString => "EOF while parsing a string"
  | missingValue => "EOF while parsing a value"
  | expectedColon => "expected `:`"
  | expectedListEnd => "expected `,` or `]`"
  | expectedObjectEnd => "expected `,` or `\x7d`"
  | expectedWord => "expected ident"
  | expectedValue => "expected value"
  | invalidEscape => "invalid escape"
  | invalidNumber => "invalid number"
  | numberOutOfRange => "number out of range"
  | loneSurrogate => "lone leading surrogate in hex escape"
  | unpairedSurrogate => "unexpected end of hex escape"
  | controlCharacter => "control character (\\u0000-\\u001F) found while parsing a string"
  | keyNotString => "key must be a string"
  | trailingComma => "trailing comma"
  | trailingCharacters => "trailing characters"
  | tooDeep => "recursion limit exceeded"
  | invalidType found expected => s!"invalid type: {found.text}, expected {expected}"
  | invalidLength length expected => s!"invalid length {length}, expected {expected}"
  | unknownVariant name known => s!"unknown variant `{name}`, " ++ choice known
  | missingField name => s!"missing field `{name}`"
  | duplicateField name => s!"duplicate field `{name}`"

end Cause

/-- The three kinds of fault: the text ends too early, it is no JSON, or it says something else
than it should. -/
inductive FaultKind where
  | ending
  | grammar
  | content
  deriving DecidableEq, Repr

def Cause.kind : Cause → FaultKind
  | unclosedList | unclosedObject | unclosedString | missingValue => .ending
  | invalidType .. | invalidLength .. | unknownVariant .. | missingField _ | duplicateField _ =>
    .content
  | _ => .grammar

/-- A cause and the number of bytes before the place it is reported at. -/
structure Fault where
  cause : Cause
  offset : Nat
  deriving DecidableEq, Repr

end TreeSchema.Json
