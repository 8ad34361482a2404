import TreeSchema.Formatter.Utility.Characters
import TreeSchema.Formatter.Utility.Condition
import TreeSchema.Formatter.Utility.Editor
import TreeSchema.Formatter.Utility.Expression
import TreeSchema.Formatter.Utility.Fields
import TreeSchema.Formatter.Utility.Files
import TreeSchema.Formatter.Utility.Lines
import TreeSchema.Formatter.Utility.Names
import TreeSchema.Formatter.Utility.Numbers
import TreeSchema.Formatter.Utility.Order
import TreeSchema.Formatter.Utility.Search

/-!
The programs by their names.
-/

namespace TreeSchema.Utility

open Text (Octets)

/-- Ends with a status. -/
def ending (status : Nat) : Utility := fun _ => Task.setStatus status

/-- A time in digits with a unit or none. -/
def isTime (text : Octets) : Bool :=
  let (whole, rest) := text.toList.span Char.isDigit
  let rest := match rest with
    | '.' :: rest => rest.dropWhile Char.isDigit
    | rest => rest
  !whole.isEmpty && (rest.isEmpty || [['s'], ['m'], ['h'], ['d']].contains rest)

/-- Waits, for which no time passes. -/
def sleep : Utility := fun args => do
  match args.find? (!isTime ·) with
  | some text => Task.complainOfUse s!"invalid time interval {inQuotes text}" 1
  | none => if args.isEmpty then Task.complainOfUse "missing operand" 1

/-- The program of a name. -/
def find? : String → Option Utility
  | "true" | "sync" => some (ending 0)
  | "sleep" => some sleep
  | "false" => some (ending 1)
  | "echo" => some echoPlain
  | "printf" => some printf
  | "test" => some test
  | "[" => some bracketTest
  | "cat" => some cat
  | "tee" => some tee
  | "rm" => some rm
  | "rmdir" => some rmdir
  | "mv" => some mv
  | "cp" => some cp
  | "touch" => some touch
  | "mkdir" => some mkdir
  | "chmod" => some chmod
  | "ls" => some ls
  | "ln" => some ln
  | "head" => some head
  | "tail" => some tail
  | "wc" => some wc
  | "sort" => some sort
  | "uniq" => some uniq
  | "tac" => some tac
  | "rev" => some rev
  | "nl" => some nl
  | "cut" => some cut
  | "paste" => some paste
  | "fold" => some fold
  | "tr" => some tr
  | "dirname" => some dirname
  | "basename" => some basename
  | "seq" => some seq
  | "cmp" => some cmp
  | "expr" => some expr
  | "grep" => some grep
  | "egrep" => some egrep
  | "fgrep" => some fgrep
  | "sed" => some sed
  | _ => none

end TreeSchema.Utility
