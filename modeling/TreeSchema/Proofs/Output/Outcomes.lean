import TreeSchema.Output

/-!
The ways in which writing units can end: it fails to make the directory, to stage a unit or to move
one into place, or all units are moved.
-/

namespace TreeSchema.Work

variable {work result : Work} {directory : String} {units : List SourceUnit}
  {format? : Option FormatStep} {answer : Except Failure (List String)}

/-- How units are written, by the phase that ends it. -/
inductive Writes (work : Work) (directory : String) (units : List SourceUnit)
    (format? : Option FormatStep) : Work → Except Failure (List String) → Prop
  | notMade {store : Store} {fault : IoFault}
    (made : work.store.makeDirectories directory = (store, some fault)) :
    Writes work directory units format? { work with store } (.error (.sink directory fault))
  | notStaged {store : Store} {staged : Work} {entries : List Staged} {failure : Failure}
    (made : work.store.makeDirectories directory = (store, none))
    (run : stage directory format? { work with store } units = (staged, entries, some failure)) :
    Writes work directory units format? (staged.discard entries) (.error failure)
  | notMoved {store : Store} {staged undone : Work} {entries : List Staged} {failure : Failure}
    (made : work.store.makeDirectories directory = (store, none))
    (run : stage directory format? { work with store } units = (staged, entries, none))
    (refused : commit [] staged entries = (undone, .error failure)) :
    Writes work directory units format? undone (.error failure)
  | moved {store : Store} {staged moved : Work} {entries : List Staged}
    {moves : List (Staged × Bool)}
    (made : work.store.makeDirectories directory = (store, none))
    (run : stage directory format? { work with store } units = (staged, entries, none))
    (committed : commit [] staged entries = (moved, .ok moves)) :
    Writes work directory units format? (moved.finish moves) (.ok (moves.map (·.1.target)))

theorem writes_of_writeUnits (run : work.writeUnits directory units format? = (result, answer)) :
    Writes work directory units format? result answer := by
  unfold writeUnits at run
  split at run
  next store fault made =>
    cases run
    exact .notMade made
  next store made =>
    split at run
    next staged entries failure stopped =>
      cases run
      exact .notStaged made stopped
    next staged entries all =>
      split at run
      next undone failure refused =>
        cases run
        exact .notMoved made all refused
      next moved moves committed =>
        cases run
        exact .moved made all committed

end TreeSchema.Work
