import TreeSchema.Formatter.Utility.Basic

/-!
Programs that print numbers.
-/

namespace TreeSchema.Utility

open Text (Octets)

def integerOf? (text : Octets) : Option Int :=
  match text.toList with
  | '-' :: digits => (naturalOf? (String.ofList digits)).map fun n => -(n : Int)
  | '+' :: digits => (naturalOf? (String.ofList digits)).map fun n => (n : Int)
  | _ => (naturalOf? text).map fun n => (n : Int)

/-- The numbers from one to another. -/
def numbersFrom (first step last : Int) : List Int :=
  if step = 0 then []
  else
    let count := (last - first) / step + 1
    (List.range (min count.toNat 100000)).map fun (index : Nat) => first + step * (index : Int)

/-- The flags before the numbers: what separates them, and whether they have one width. -/
def seqFlags (separator : Octets) (width : Bool) : List Octets → Octets × Bool × List Octets
  | "-s" :: text :: rest => seqFlags text width rest
  | "-w" :: rest => seqFlags separator true rest
  | "--" :: rest => (separator, width, rest)
  | arg :: rest =>
    if arg.startsWith "-s" && arg.length > 2 then seqFlags (dropOctets 2 arg) width rest
    else (separator, width, arg :: rest)
  | [] => (separator, width, [])

def seq : Utility := fun args => do
  let (separator, width, numbers) := seqFlags "\n" false args
  match numbers.find? fun text => (integerOf? text).isNone with
  | some text => Task.complainOfUse s!"invalid floating point argument: {inQuotes text}" 1
  | none =>
    let print (numbers : List Int) : Task Unit := do
      let texts := numbers.map toString
      let size := texts.foldl (fun size text => max size text.length) 0
      let padded (number : Int) : Octets :=
        let digits := toString number.natAbs
        let sign := if number < 0 then "-" else ""
        sign ++ String.ofList (List.replicate (size - digits.length - sign.length) '0') ++ digits
      let texts := if width then numbers.map padded else texts
      unless texts.isEmpty do Task.say (separator.intercalate texts ++ "\n")
    match numbers.filterMap integerOf? with
    | [last] => print (numbersFrom 1 1 last)
    | [first, last] => print (numbersFrom first 1 last)
    | [first, step, last] =>
      let text := (numbers[1]?).getD ""
      if step = 0 then Task.complainOfUse s!"invalid Zero increment value: {inQuotes text}" 1
      else print (numbersFrom first step last)
    | [] => Task.complainOfUse "missing operand" 1
    | _ =>
      let extra := (numbers[3]?).getD ""
      Task.complainOfUse s!"extra operand {inQuotes extra}" 1

end TreeSchema.Utility
