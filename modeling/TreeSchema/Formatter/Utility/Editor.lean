import TreeSchema.Formatter.Editing.Reading
import TreeSchema.Formatter.Editing.Running
import TreeSchema.Formatter.Utility.Files

/-!
The program that edits texts by a script.
-/

namespace TreeSchema.Utility

open Text (Octets)

/-- Where a part of a script comes from. -/
inductive ScriptOrigin where
  | argument (number : Nat)
  | file (path : Octets)

/-- Where in the parts of a script, which a line break separates, a fault is after so many
characters. -/
def faultPlace (parts : List (ScriptOrigin × Octets)) (fault : Editing.Fault) (read : Nat) :
    Octets :=
  match parts with
  | [] => ""
  | (origin, text) :: rest =>
    if text.length < read && !rest.isEmpty then faultPlace rest fault (read - text.length - 1)
    else
      match origin with
      | .argument number =>
        let place := if fault = .unmatchedOpening then 0 else read
        s!"-e expression #{number}, char {place}"
      | .file path =>
        let line := ((text.toList.take (read - 1)).count '\n') + 1
        s!"file {path} line {line}"

def editorNames : List (String × Char) :=
  [("quiet", 'n'), ("silent", 'n'), ("expression", 'e'), ("file", 'f'), ("regexp-extended", 'E'),
    ("separate", 's'), ("null-data", 'z'), ("unbuffered", 'u'), ("line-length", 'l'),
    ("in-place", 'i')]

/-- The letters of flags that take no value. -/
def editorFlags : String := "nErsuz"

/-- The arguments without the flag for editing in place, and the ending that follows it. -/
def splitInPlace : List Octets → List Octets × Option Octets
  | [] => ([], none)
  | "--" :: rest => ("--" :: rest, none)
  | arg :: rest =>
    let letters := if arg.startsWith "-" then arg.toList.drop 1 else []
    let before := letters.takeWhile fun c => editorFlags.toList.contains c
    match letters.drop before.length with
    | 'i' :: ending =>
      let (others, ending?) := splitInPlace rest
      (if before.isEmpty then others else String.ofList ('-' :: before) :: others,
        ending?.or (some (String.ofList ending)))
    | [flag] =>
      let (others, ending?) := splitInPlace (rest.drop 1)
      if ['e', 'f', 'l'].contains flag then (arg :: rest.take 1 ++ others, ending?)
      else
        let (others, ending?) := splitInPlace rest
        (arg :: others, ending?)
    | _ =>
      let (others, ending?) := splitInPlace rest
      (arg :: others, ending?)
  termination_by args => args.length

/-- What the program is asked to do. -/
structure EditorCall where
  settings : Editing.Settings
  separate : Bool
  /-- Whether files are written instead of the output, with what ending their old text is kept. -/
  ending? : Option Octets

/-- The name of the file that keeps the old text; a star in the ending stands for the name. -/
def keptName (ending path : Octets) : Octets :=
  if ending.toList.contains '*' then
    let name := ending.replace "*" (lastName path)
    if ending.toList.contains '/' then name
    else takeOctets (path.length - (lastName path).length) path ++ name
  else path ++ ending

/-- Edits files one by one. -/
def editEach (call : EditorCall) (separator : Octets) (editor : Editing.Editor) :
    List Octets → Task Editing.Editor
  | [] => return editor
  | path :: rest => do
    match ← Task.readFile path with
    | .error fault =>
      if fault = .isDirectory && call.ending?.isSome then
        Task.warn s!"couldn't edit {path}: not a regular file"
        Task.setStatus 4
      else if fault = .isDirectory then
        Task.warn s!"read error on {path}: {fault.reason}"
        Task.setStatus 4
      else
        Task.warn s!"can't read {path}: {fault.reason}"
        Task.setStatus 2
      editEach call separator editor rest
    | .ok content =>
      let lines := (Editing.linesOf separator content).map fun line => (path, line)
      let (ending, editor) := (Editing.run call.settings 1000000 lines).run editor
      match call.ending? with
      | none => Task.say editor.output.text
      | some kept =>
        unless kept.isEmpty do discard (Task.writeFile (keptName kept path) content)
        discard (Task.writeFile path editor.output.text)
      match ending with
      | .finished => editEach call separator editor rest
      | .quit status =>
        Task.setStatus status
        return editor
      | .fault =>
        Task.warn s!"-e expression #1, char 0: {Editing.Fault.noPreviousPattern.message}"
        Task.setStatus 1
        return editor

/-- The lines of files that are edited as one text. A directory ends them. -/
def linesOfFiles (separator : Octets) : List Octets → Task (List (Octets × Editing.Line))
  | [] => return []
  | path :: rest => do
    match ← Task.readFile path with
    | .ok content =>
      let lines := (Editing.linesOf separator content).map fun line => (path, line)
      return lines ++ (← linesOfFiles separator rest)
    | .error .isDirectory =>
      let name := if path = "-" then "stdin" else path
      Task.warn s!"read error on {name}: {IoFault.isDirectory.reason}"
      Task.setStatus 4
      return []
    | .error fault =>
      Task.warn s!"can't read {path}: {fault.reason}"
      Task.setStatus 2
      linesOfFiles separator rest

/-- Edits files as one text. -/
def editAll (call : EditorCall) (separator : Octets) (editor : Editing.Editor)
    (paths : List Octets) : Task Editing.Editor := do
  let lines ← linesOfFiles separator paths
  let (ending, editor) := (Editing.run call.settings 1000000 lines).run editor
  Task.say editor.output.text
  match ending with
  | .finished => pure ()
  | .quit status => Task.setStatus status
  | .fault =>
    Task.warn s!"-e expression #1, char 0: {Editing.Fault.noPreviousPattern.message}"
    Task.setStatus 1
  return editor

/-- The parts of the script: all that are given, or else the first operand. -/
def scriptParts (arguments : Arguments) : Task (Except Octets (List (ScriptOrigin × Octets))) := do
  let given := arguments.flags.filter fun flag => flag.1 == 'e' || flag.1 == 'f'
  if given.isEmpty then
    return .ok [(.argument 1, arguments.operands.headD "")]
  let rec go (number : Nat) :
      List (Char × Octets) → Task (Except Octets (List (ScriptOrigin × Octets)))
    | [] => return .ok []
    | (flag, value) :: rest => do
      if flag = 'e' then
        return (← go (number + 1) rest).map ((.argument number, value) :: ·)
      else
        match ← Task.readFile value with
        | .ok content => return (← go number rest).map ((.file value, chomp content) :: ·)
        | .error fault => return .error s!"couldn't open file {value}: {fault.reason}"
  go 1 given

def sed : Utility := fun args =>
  let (args, ending?) := splitInPlace (shortFlags editorNames (args.filter (· != "--posix")))
  withArguments editorFlags "efl" args 1 fun arguments => do
    match ← scriptParts arguments with
    | .error message =>
      Task.warn message
      Task.setStatus 4
    | .ok parts =>
      let given := arguments.has 'e' || arguments.has 'f'
      let paths := if given then arguments.operands else arguments.operands.drop 1
      let extended := arguments.has 'E' || arguments.has 'r'
      let text := "\n".intercalate (parts.map (·.2))
      match Editing.Script.read extended text with
      | .error (read, fault) => Task.complain s!"{faultPlace parts fault read}: {fault.message}"
      | .ok script =>
        if let some label := Editing.missingLabel? script then
          Task.warn s!"can't find label for jump to `{label}'"
          Task.setStatus 4
        else
          let store ← Task.store
          let readFile? (path : Octets) : Option Octets :=
            (store.read (Octets.decode path)).toOption.map Octets.ofBytes
          let silent := text.startsWith "#n"
          let separator := if arguments.has 'z' then "\x00" else "\n"
          let call : EditorCall := {
            settings := {
              script := script
              prints := !arguments.has 'n' && !silent
              width := ((arguments.value? 'l').bind naturalOf?).getD 70
              readFile? := readFile? }
            separate := arguments.has 's'
            ending? := ending? }
          let paths := if paths.isEmpty then ["-"] else paths
          let files := (Editing.writtenFiles script).filter (· != "/dev/stdout")
          let editor := Editing.Editor.start separator files
          let editor ←
            if call.separate || call.ending?.isSome then editEach call separator editor paths
            else editAll call separator editor paths
          for (path, output) in editor.files do
            discard (Task.writeFile path output.text)

end TreeSchema.Utility
