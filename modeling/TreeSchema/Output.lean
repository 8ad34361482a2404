import TreeSchema.Failure
import TreeSchema.Log
import TreeSchema.Store.Calls

/-!
Writing units into a directory. Every unit is first staged next to its place, and formatted there.
Once all are staged they are moved into place one after the other, the file that was there being
moved aside before. If anything fails, what has been staged is removed and what has been moved aside
is put back.
-/

namespace TreeSchema

/-- Formats the file of the given path in a store. -/
abbrev FormatStep := String → Store → Store × Option Failure

/-- The three names of a unit's file: where it is written first, where it belongs, and where the
file that is there goes meanwhile. -/
structure Staged where
  staged : String
  target : String
  backup : String
  deriving DecidableEq, Repr

def Staged.ofUnit (directory : String) (unit : SourceUnit) : Staged where
  staged := joinPath directory (unit.module ++ ".tmp.rs")
  target := joinPath directory unit.fileName
  backup := joinPath directory (unit.module ++ ".old.rs")

/-- A store and what has been reported, first event first. -/
structure Work where
  store : Store
  log : List Event

namespace Work

def start (store : Store) : Work := ⟨store, []⟩

def report (work : Work) (event : Event) : Work :=
  { work with log := work.log ++ [event] }

/-- Goes on with the store of a call that may fail; a fault is only reported. -/
def attempt (work : Work) (event : IoFault → Event) (result : Except IoFault Store) : Work :=
  match result with
  | .ok store => { work with store }
  | .error fault => work.report (event fault)

/-! ### Cleaning up -/

/-- Removes the staged files. -/
def discard (work : Work) (entries : List Staged) : Work :=
  entries.foldl (fun work entry =>
    work.attempt (fun fault => .stagedNotRemoved entry.staged fault.message)
      (work.store.remove entry.staged)) work

/-- Puts the file that was moved aside back into its place. -/
def restore (work : Work) (entry : Staged) : Work :=
  work.attempt (fun fault => .backupNotRestored entry.target entry.backup fault.message)
    (work.store.rename entry.backup entry.target)

/-- Undoes moves, of which the last comes first. Each tells whether a file was moved aside. -/
def rollBack (work : Work) (moved : List (Staged × Bool)) : Work :=
  moved.foldl (fun work (entry, aside) =>
    if aside then work.restore entry
    else work.attempt (fun fault => .outputNotRemoved entry.target fault.message)
      (work.store.remove entry.target)) work

/-! ### Staging -/

/-- Writes a staged file, and formats it if there is a formatter. The answer holds the entry if it
has been written, also if formatting it fails. -/
def stageEntry (format? : Option FormatStep) (work : Work) (entry : Staged) (source : String) :
    Work × List Staged × Option Failure :=
  match work.store.write entry.staged source.toUTF8 with
  | .error fault => (work, [], some (.sink entry.staged fault))
  | .ok store =>
    match format? with
    | none => ({ work with store }, [entry], none)
    | some format =>
      match format entry.staged store with
      | (store, some failure) => ({ work with store }, [entry], some failure)
      | (store, none) => (Work.report { work with store } (.formatted entry.staged), [entry], none)

/-- Goes on staging, unless something has failed. -/
def andThen (first : Work × List Staged × Option Failure)
    (next : Work → Work × List Staged × Option Failure) : Work × List Staged × Option Failure :=
  match first with
  | (work, entries, some failure) => (work, entries, some failure)
  | (work, entries, none) =>
    let (work, others, failure?) := next work
    (work, entries ++ others, failure?)

/-- Stages units one after the other. The answer holds the entries that have been written, also if
something fails. -/
def stage (directory : String) (format? : Option FormatStep) :
    Work → List SourceUnit → Work × List Staged × Option Failure
  | work, [] => (work, [], none)
  | work, unit :: rest =>
    andThen (stageEntry format? work (Staged.ofUnit directory unit) unit.source) fun work =>
      stage directory format? work rest

/-! ### Moving into place -/

/-- Moves a staged file into its place. The answer tells whether a file was moved aside. -/
def replace (work : Work) (entry : Staged) : Work × Except Failure Bool :=
  if work.store.isFile entry.target then
    match work.store.rename entry.target entry.backup with
    | .error fault => (work, .error (.sink entry.backup fault))
    | .ok store =>
      match store.rename entry.staged entry.target with
      | .ok store => ({ work with store }, .ok true)
      | .error fault =>
        (Work.restore { work with store } entry, .error (.sink entry.target fault))
  else
    match work.store.rename entry.staged entry.target with
    | .ok store => ({ work with store }, .ok false)
    | .error fault => (work, .error (.sink entry.target fault))

/-- Moves staged files into place, `moved` being the ones before, last first. If one cannot be moved
all are undone. -/
def commit (moved : List (Staged × Bool)) :
    Work → List Staged → Work × Except Failure (List (Staged × Bool))
  | work, [] => (work, .ok moved.reverse)
  | work, entry :: rest =>
    match work.replace entry with
    | (work, .ok aside) => commit ((entry, aside) :: moved) work rest
    | (work, .error failure) =>
      ((work.rollBack moved).discard (entry :: rest), .error failure)

/-- Removes the files that were moved aside and reports the new ones. -/
def finish (work : Work) (moved : List (Staged × Bool)) : Work :=
  moved.foldl (fun work (entry, aside) =>
    let work :=
      if aside then
        work.attempt (fun fault => .backupNotRemoved entry.backup fault.message)
          (work.store.remove entry.backup)
      else work
    work.report (.wrote entry.target)) work

/-- Writes units into a directory, which is made if it is missing. The answer holds the paths of the
files in the order of the units. -/
def writeUnits (work : Work) (directory : String) (units : List SourceUnit)
    (format? : Option FormatStep) : Work × Except Failure (List String) :=
  match work.store.makeDirectories directory with
  | (store, some fault) => ({ work with store }, .error (.sink directory fault))
  | (store, none) =>
    match stage directory format? { work with store } units with
    | (work, entries, some failure) => (work.discard entries, .error failure)
    | (work, entries, none) =>
      match commit [] work entries with
      | (work, .error failure) => (work, .error failure)
      | (work, .ok moved) => (work.finish moved, .ok (moved.map (·.1.target)))

end Work

/-- Loads the schema of a file. -/
def Store.loadSchema (store : Store) (path : String) : Except Failure Schema :=
  match store.readText path with
  | .error fault => .error (.load path fault)
  | .ok text => (Schema.load text).mapError (.parseFile path)

end TreeSchema
