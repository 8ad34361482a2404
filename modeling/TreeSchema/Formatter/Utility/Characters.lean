import TreeSchema.Formatter.Utility.Printing
import TreeSchema.Text.Wildcard

/-!
The program that puts characters in place of others or leaves them out.
-/

namespace TreeSchema.Utility

open Text (Octets)

/-- The characters from one to another. -/
def charsFrom (low high : Char) : List Char :=
  (List.range (high.toNat + 1 - low.toNat)).map fun offset => Char.ofNat (low.toNat + offset)

def classChars (spans : List (Char × Char)) : List Char :=
  (spans.flatMap fun (low, high) => charsFrom low high).mergeSort fun a b => a ≤ b

/-- The characters of a set with its escapes read, each with whether it was escaped. -/
def setChars : (fuel : Nat) → List Char → List (Char × Bool)
  | 0, _ | _, [] => []
  | fuel + 1, '\\' :: c :: rest =>
    match octalValue? c, escapedChar? c with
    | some _, _ =>
      let (value, rest) := takeOctal 3 0 (c :: rest)
      (byteChar value, true) :: setChars fuel rest
    | none, some escaped => (escaped, true) :: setChars fuel rest
    | none, none => (c, true) :: setChars fuel rest
  | fuel + 1, c :: rest => (c, false) :: setChars fuel rest

/-- A set whose last character may stand for as many as are needed. -/
structure CharSet where
  characters : List Char
  fill? : Option Char

/-- The members of a set: ranges, classes, and characters that are repeated. The error is a range
whose ends are in the wrong order. -/
def expandSet : (fuel : Nat) → List (Char × Bool) → Except Octets CharSet
  | 0, _ | _, [] => .ok ⟨[], none⟩
  | fuel + 1, ('[', false) :: (':', false) :: rest =>
    match Text.Wildcard.class? (rest.map (·.1)) with
    | some (spans, left) =>
      (expandSet fuel (rest.drop (rest.length - left.length))).map fun set =>
        { set with characters := classChars spans ++ set.characters }
    | none =>
      (expandSet fuel ((':', true) :: rest)).map fun set =>
        { set with characters := '[' :: set.characters }
  | fuel + 1, ('[', false) :: (c, _) :: ('*', false) :: rest =>
    let digits := rest.takeWhile fun item => item.1.isDigit
    match rest.drop digits.length with
    | (']', false) :: rest =>
      let digits := digits.map (·.1)
      let count := if digits.head? = some '0' then (takeOctal digits.length 0 digits).1
        else ((String.ofList digits).toNat?).getD 0
      (expandSet fuel rest).map fun set =>
        if count = 0 then { set with fill? := some c }
        else { set with characters := List.replicate count c ++ set.characters }
    | _ =>
      (expandSet fuel ((c, true) :: ('*', true) :: rest)).map fun set =>
        { set with characters := '[' :: set.characters }
  | fuel + 1, (low, _) :: ('-', false) :: (high, _) :: rest =>
    if high < low then .error (String.ofList [low, '-', high])
    else
      (expandSet fuel rest).map fun set =>
        { set with characters := charsFrom low high ++ set.characters }
  | fuel + 1, (c, _) :: rest =>
    (expandSet fuel rest).map fun set => { set with characters := c :: set.characters }

def readSet (text : Octets) : Except Octets CharSet :=
  let characters := setChars (text.length + 1) text.toList
  expandSet (characters.length + 1) characters

/-- Leaves the first of equal characters after each other. -/
def squeezeChars (squeezed : Char → Bool) : List Char → List Char
  | first :: second :: rest =>
    if first = second && squeezed first then squeezeChars squeezed (second :: rest)
    else first :: squeezeChars squeezed (second :: rest)
  | rest => rest

/-- The characters of the second set that stand for those of the first: as many, the last one
counting for those that are missing. -/
def fillSet (size : Nat) (set : CharSet) : List Char :=
  let missing := size - set.characters.length
  set.characters ++ List.replicate missing ((set.fill?.or set.characters.getLast?).getD ' ')

def allOctets : List Char :=
  (List.range 256).map Char.ofNat

/-- The flags before the sets. -/
def changeFlags : List Octets → List Char × List Octets
  | [] => ([], [])
  | arg :: rest =>
    match arg.toList with
    | ['-', '-'] => ([], rest)
    | '-' :: c :: more =>
      let (flags, rest) := changeFlags rest
      (c :: more ++ flags, rest)
    | _ => ([], arg :: rest)

/-- Prints its input after a change. -/
def printChanged (change : List Char → List Char) : Task Unit := do
  match ← Task.readFile "-" with
  | .ok content => Task.say (String.ofList (change content.toList))
  | .error fault => Task.complain s!"read error: {fault.reason}"

def tr : Utility := fun args => do
  let (flags, sets) := changeFlags args
  let deletes := flags.contains 'd'
  let squeezes := flags.contains 's'
  match flags.find? fun c => !(['c', 'C', 'd', 's', 't'].contains c) with
  | some c => Task.complainOfUse s!"invalid option -- '{c}'" 1
  | none =>
    match sets.mapM readSet with
    | .error range =>
      Task.complain s!"range-endpoints of '{range}' are in reverse collating sequence order"
    | .ok [] => Task.complainOfUse "missing operand" 1
    | .ok [first] =>
      if !deletes && !squeezes then
        let set := inQuotes (sets.headD "")
        Task.complainOfUse
          s!"missing operand after {set}\nTwo strings must be given when translating." 1
      else
        let chosen (c : Char) : Bool :=
          first.characters.contains c != (flags.contains 'c' || flags.contains 'C')
        printChanged (if deletes then List.filter (!chosen ·) else squeezeChars chosen)
    | .ok [first, second] =>
      if deletes && !squeezes then
        let extra := sets.getLastD ""
        Task.complainOfUse
          s!"extra operand {inQuotes extra}\nOnly one string may be given when deleting without squeezing repeats." 1
      else
        let complement := flags.contains 'c' || flags.contains 'C'
        let source :=
          if complement then allOctets.filter fun c => !first.characters.contains c
          else first.characters
        if deletes then
          printChanged fun text =>
            squeezeChars second.characters.contains (text.filter (!source.contains ·))
        else if second.characters.isEmpty && second.fill?.isNone && !flags.contains 't' then
          Task.complain "when not truncating set1, string2 must be non-empty"
        else
          let target := fillSet source.length second
          let source := if flags.contains 't' then source.take second.characters.length else source
          let pairs := (source.zip target).reverse
          printChanged fun text =>
            let replaced := text.map fun c => (pairs.lookup c).getD c
            if squeezes then squeezeChars target.contains replaced else replaced
    | .ok _ =>
      let extra := (sets[2]?).getD ""
      Task.complainOfUse s!"extra operand {inQuotes extra}" 1

end TreeSchema.Utility
