import TreeSchema.Text.CharClass

/-!
The words of a name, and the two ways of writing them as an identifier.

A word ends at a character that is neither letter nor number, before an upper-case letter that
follows lower case, and before the last letter of a run of capitals that goes on in lower case.
-/

namespace TreeSchema.Text

/-- The maximal runs of letters and numbers; runs may be empty. -/
def runs : List Char → List (List Char)
  | [] => [[]]
  | c :: rest =>
    match isAlphanumeric c, runs rest with
    | true, run :: others => (c :: run) :: others
    | true, [] => [[c]]
    | false, others => [] :: others

/-- What the letters of the current word were last. -/
inductive Hump where
  | start
  | lower
  | upper
  deriving DecidableEq

def Hump.next (hump : Hump) (c : Char) : Hump :=
  if isLowercase c then .lower else if isUppercase c then .upper else hump

/-- The words of a run, `word` being the start of the current one. -/
def humps (hump : Hump) (word : List Char) : List Char → List (List Char)
  | [] => if word.isEmpty then [] else [word]
  | [c] => [word ++ [c]]
  | c :: d :: rest =>
    if hump.next c = .lower ∧ isUppercase d then
      (word ++ [c]) :: humps .start [] (d :: rest)
    else if hump = .upper ∧ isUppercase c ∧ isLowercase d then
      word :: humps .start [c] (d :: rest)
    else
      humps (hump.next c) (word ++ [c]) (d :: rest)

def words (name : List Char) : List (List Char) :=
  (runs name).flatMap (humps .start [])

/-- A word in lower case. A sigma that ends the word takes its final form. -/
def lowerWord : List Char → List Char
  | [] => []
  | [c] => if c = 'Σ' then ['ς'] else lower c
  | c :: rest => lower c ++ lowerWord rest

def capitalizedWord : List Char → List Char
  | [] => []
  | c :: rest => upper c ++ lowerWord rest

def snakeCaseChars (name : List Char) : List Char :=
  ['_'].intercalate ((words name).map lowerWord)

def pascalCaseChars (name : List Char) : List Char :=
  (words name).flatMap capitalizedWord

/-- The words in lower case, joined by underscores. -/
def snakeCase (name : String) : String :=
  String.ofList (snakeCaseChars name.toList)

/-- The words capitalised and run together. -/
def pascalCase (name : String) : String :=
  String.ofList (pascalCaseChars name.toList)

end TreeSchema.Text
