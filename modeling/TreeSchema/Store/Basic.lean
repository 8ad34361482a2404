import TreeSchema.Store.Fault

/-!
Stores of files. A store maps paths to files and directories; a path is the list of names that lead
to it from the root, which is always a directory. One of the directories is the working directory.
-/

namespace TreeSchema

abbrev Path := List String

inductive Entry where
  | file (content : ByteArray)
  | directory
  /-- What keeps nothing that is written to it, and has nothing to read. -/
  | null

structure Store where
  /-- The working directory. -/
  home : Path
  entries : List (Path × Entry)

namespace Store

/-- The directories that every system has at its root. -/
def systemDirectories : List String :=
  ["bin", "dev", "etc", "home", "lib", "mnt", "opt", "proc", "root", "run", "sbin", "srv", "sys",
    "tmp", "usr", "var"]

/-- A working directory with nothing in it. -/
def empty : Store where
  home := ["tmp", "work"]
  entries := (["tmp", "work"], .directory) :: (["dev", "null"], .null) ::
    systemDirectories.map fun name => ([name], .directory)

/-- What is at a path. -/
def get? (store : Store) (path : Path) : Option Entry :=
  if path = [] then some .directory else store.entries.lookup path

def put (store : Store) (path : Path) (entry : Entry) : Store :=
  { store with entries := (path, entry) :: store.entries.filter (·.1 != path) }

def erase (store : Store) (path : Path) : Store :=
  { store with entries := store.entries.filter (·.1 != path) }

theorem lookup_cons_eq_ite (entries : List (Path × Entry)) (path other : Path) (entry : Entry) :
    ((path, entry) :: entries).lookup other =
      if other = path then some entry else entries.lookup other := by
  by_cases h : other = path
  · simp [h]
  · have : (other == path) = false := by simpa using h
    simp [List.lookup_cons, h, this]

theorem lookup_filter_ne (entries : List (Path × Entry)) (path other : Path) :
    (entries.filter (·.1 != path)).lookup other =
      if other = path then none else entries.lookup other := by
  induction entries with
  | nil => simp
  | cons entry rest ih =>
    obtain ⟨key, value⟩ := entry
    by_cases hkey : key = path
    · subst hkey
      rw [List.filter_cons_of_neg (by simp), ih, lookup_cons_eq_ite]
      by_cases hother : other = key <;> simp only [hother, if_true, if_false]
    · by_cases hother : other = path
      · subst hother
        simp [hkey, lookup_cons_eq_ite, ih, Ne.symm hkey]
      · simp [hkey, lookup_cons_eq_ite, ih, hother]

theorem get?_put (store : Store) {path : Path} (other : Path) (entry : Entry) (h : path ≠ []) :
    (store.put path entry).get? other = if other = path then some entry else store.get? other := by
  unfold get? put
  by_cases hroot : other = []
  · subst hroot
    simp [Ne.symm h]
  · by_cases hsame : other = path <;>
      simp [hroot, hsame, lookup_cons_eq_ite, lookup_filter_ne, h]

theorem get?_erase (store : Store) {path : Path} (other : Path) (h : path ≠ []) :
    (store.erase path).get? other = if other = path then none else store.get? other := by
  unfold get? erase
  by_cases hroot : other = []
  · subst hroot
    simp [Ne.symm h]
  · simp [hroot, lookup_filter_ne]

/-- Whether `path` is `above` or leads through it. -/
def isUnder (above path : Path) : Bool :=
  above.isPrefixOf path

/-- Takes away what is at a path and under it. -/
def eraseTree (store : Store) (path : Path) : Store :=
  { store with entries := store.entries.filter fun entry => !isUnder path entry.1 }

/-- Moves what is at a path and under it. -/
def moveTree (store : Store) (source target : Path) : Store :=
  { store with
    entries := (store.entries.filter fun entry => !isUnder target entry.1).map fun (path, entry) =>
      (if isUnder source path then target ++ path.drop source.length else path, entry) }

/-- Whether something is under a path. -/
def hasChildren (store : Store) (path : Path) : Bool :=
  store.entries.any fun entry => isUnder path entry.1 && entry.1 != path

/-- What is under a path, by the paths from there. -/
def below (store : Store) (path : Path) : List (Path × Entry) :=
  (store.entries.filter fun entry => isUnder path entry.1 && entry.1 != path).map
    fun (other, entry) => (other.drop path.length, entry)

end Store

end TreeSchema
