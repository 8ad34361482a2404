/-!
JSON values and their compact text. Only what schemas are printed with is here: texts, lists and
objects.
-/

namespace TreeSchema.Json

inductive Value where
  | string (text : String)
  | list (items : List Value)
  | object (members : List (String × Value))
  deriving Repr

/-- A character as it stands in a string. Controls without a letter of their own are written as
four digits. -/
def escapeChar (c : Char) : List Char :=
  if c = '"' then ['\\', '"']
  else if c = '\\' then ['\\', '\\']
  else if c = '\x08' then ['\\', 'b']
  else if c = '\x0c' then ['\\', 'f']
  else if c = '\n' then ['\\', 'n']
  else if c = '\r' then ['\\', 'r']
  else if c = '\t' then ['\\', 't']
  else if c.toNat < 32 then
    ['\\', 'u', '0', '0', Nat.digitChar (c.toNat / 16), Nat.digitChar (c.toNat % 16)]
  else [c]

def stringText (text : String) : List Char :=
  '"' :: text.toList.flatMap escapeChar ++ ['"']

namespace Value

mutual

/-- The text of a value without white space. -/
def text : Value → List Char
  | string s => stringText s
  | list [] => ['[', ']']
  | list (item :: rest) => '[' :: item.text ++ itemsText rest
  | object [] => ['{', '}']
  | object (member :: rest) => '{' :: memberText member ++ membersText rest

def itemsText : List Value → List Char
  | [] => [']']
  | item :: rest => ',' :: item.text ++ itemsText rest

def memberText : String × Value → List Char
  | (key, value) => stringText key ++ ':' :: value.text

def membersText : List (String × Value) → List Char
  | [] => ['}']
  | member :: rest => ',' :: memberText member ++ membersText rest

end

end Value

end TreeSchema.Json
