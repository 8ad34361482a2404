/-!
Why a call to the file system or to a program fails.
-/

namespace TreeSchema

inductive IoFault where
  | notFound
  | denied
  | alreadyExists
  | notDirectory
  | isDirectory
  | invalidArgument
  | nameTooLong
  | notEmpty
  | noSpace
  | brokenPipe
  /-- A path with a NUL in it. -/
  | nulInPath
  /-- A program or argument with a NUL in it. -/
  | nulInCommand
  | notUtf8
  deriving DecidableEq, Repr

namespace IoFault

def reason : IoFault → String
  | notFound => "No such file or directory"
  | denied => "Permission denied"
  | alreadyExists => "File exists"
  | notDirectory => "Not a directory"
  | isDirectory => "Is a directory"
  | invalidArgument => "Invalid argument"
  | nameTooLong => "File name too long"
  | notEmpty => "Directory not empty"
  | noSpace => "No space left on device"
  | brokenPipe => "Broken pipe"
  | nulInPath => "file name contained an unexpected NUL byte"
  | nulInCommand => "nul byte found in provided data"
  | notUtf8 => "stream did not contain valid UTF-8"

/-- The number of the fault, if the system reports it. -/
def number? : IoFault → Option Nat
  | notFound => some 2
  | denied => some 13
  | alreadyExists => some 17
  | notDirectory => some 20
  | isDirectory => some 21
  | invalidArgument => some 22
  | noSpace => some 28
  | brokenPipe => some 32
  | nameTooLong => some 36
  | notEmpty => some 39
  | nulInPath | nulInCommand | notUtf8 => none

def message (fault : IoFault) : String :=
  match fault.number? with
  | some number => s!"{fault.reason} (os error {number})"
  | none => fault.reason

end IoFault

end TreeSchema
