import TreeSchema.CommandLine

/-!
The program. Its store holds the working directory and what the arguments lead to. It is read before
the run, and the files are changed afterwards as the run changed the store.
-/

namespace TreeSchema

def textOfPath (path : Path) : String :=
  "/" ++ "/".intercalate path

/-- Where steps lead from a path if none of them is a link. -/
def followSteps (path : Path) (steps : List String) : Path :=
  steps.foldl (fun path step =>
    if step = "." then path else if step = ".." then path.dropLast else path ++ [step]) path

/-- Reads what is under a directory. -/
partial def readEntries (directory : Path) : IO (List (Path × Entry)) := do
  let found ← (← IO.FS.realPath (textOfPath directory)).readDir
  let entries ← found.toList.mapM fun item => do
    let path := directory ++ [item.fileName]
    if ← item.path.isDir then
      return (path, Entry.directory) :: (← readEntries path)
    else
      return [(path, Entry.file (← IO.FS.readBinFile item.path))]
  return entries.flatten

/-- The paths above a path, the root being the first. -/
def pathsAbove (path : Path) : List Path :=
  (List.range path.length).map path.take

def isDirectoryPath (path : Path) : IO Bool := do
  try (← IO.FS.realPath (textOfPath path)).isDir
  catch _ => return false

/-- Reads what is at a path, and the files of a directory. -/
def readPath (path : Path) : IO (List (Path × Entry)) := do
  try
    let place ← IO.FS.realPath (textOfPath path)
    if ← place.isDir then
      let files ← (← place.readDir).toList.filterM fun item => return !(← item.path.isDir)
      let entries ← files.mapM fun item => do
        return (path ++ [item.fileName], Entry.file (← IO.FS.readBinFile item.path))
      return (path, .directory) :: entries
    else return [(path, .file (← IO.FS.readBinFile place))]
  catch _ => return []

/-- The store that a run with these arguments works on. -/
def readStore (args : List String) : IO Store := do
  let home := pathSteps (← IO.currentDir).toString
  let places := args.map fun arg =>
    followSteps (if startsAtRoot arg then [] else home) (pathSteps arg)
  let outside := places.filter fun place => !Store.isUnder home place
  let above ← ((home :: outside).flatMap pathsAbove).filterM isDirectoryPath
  let found ← outside.mapM readPath
  return ⟨home, (home, .directory) :: (← readEntries home) ++ found.flatten ++
    above.map fun path => (path, .directory)⟩

def writeEntry (path : Path) : Entry → IO Unit
  | .directory => IO.FS.createDirAll (textOfPath path)
  | .file content => IO.FS.writeBinFile (textOfPath path) content
  | .null => return

def sameEntry : Entry → Entry → Bool
  | .directory, .directory | .null, .null => true
  | .file content, .file other => content.data == other.data
  | _, _ => false

/-- Changes the files from one store to another. -/
def replaceStore (before after : Store) : IO Unit := do
  for (path, entry) in before.entries do
    if (after.get? path).isNone then
      if entry matches .file _ then IO.FS.removeFile (textOfPath path)
  for (path, entry) in after.entries.mergeSort fun a b => a.1.length ≤ b.1.length do
    unless (before.get? path).any (sameEntry entry) do writeEntry path entry

/-- Why standard output refuses what is printed. -/
def refusalOf : IO.Error → IoFault
  | .resourceVanished .. => .brokenPipe
  | _ => .noSpace

/-- Prints what a run leaves to be printed. If that is refused, the run is told so. -/
def deliverReport (run : CommandLine.Console → CommandLine.Report) : IO CommandLine.Report := do
  let report := run .endless
  try
    let stdout ← IO.getStdout
    stdout.write report.printed
    stdout.flush
    return report
  catch error => return run (.limited 0 (refusalOf error))

/-- Runs the command line in the working directory. -/
def runHere (args : List String) : IO UInt32 := do
  let before ← readStore args
  let report ← deliverReport fun console => CommandLine.runOn Formatter.format args before console
  replaceStore before report.store
  IO.eprint (CommandLine.unlines report.errors)
  return report.exit.toUInt32

end TreeSchema

def main (args : List String) : IO UInt32 :=
  TreeSchema.runHere args
