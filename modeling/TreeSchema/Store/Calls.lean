import TreeSchema.Store.Basic

/-!
Calls to the file system. They take paths as text and fail where the store makes them fail; a call
that fails changes nothing, except that making a directory with its parents may have made some of
the parents.
-/

namespace TreeSchema

/-! ### Paths as text -/

/-- The parts of a text between slashes, without the empty ones. -/
def pathSteps (text : String) : List String :=
  (go [] text.toList).filter (!·.isEmpty)
where
  go (part : List Char) : List Char → List String
    | [] => [String.ofList part]
    | c :: rest => if c = '/' then String.ofList part :: go [] rest else go (part ++ [c]) rest

/-- Whether the text starts from the root. -/
def startsAtRoot (text : String) : Bool :=
  text.toList.head? == some '/'

/-- Whether the text asks for a directory. -/
def endsInSlash (text : String) : Bool :=
  text.toList.getLast? == some '/'

/-- A path in a directory. A path that starts with a slash stands for itself. -/
def joinPath (directory name : String) : String :=
  if startsAtRoot name || directory.isEmpty then name
  else if endsInSlash directory then directory ++ name
  else directory ++ "/" ++ name

/-- The longest name of a file, in bytes. -/
def maxName : Nat := 255

/-- The longest path, in bytes. -/
def maxPath : Nat := 4095

namespace Store

/-- Follows steps from a directory. Whether there is something at the end is not asked. -/
def walk (store : Store) : Path → List String → Except IoFault Path
  | here, [] => .ok here
  | here, step :: rest =>
    match store.get? here with
    | none => .error .notFound
    | some (.file _) | some .null => .error .notDirectory
    | some .directory =>
      if step = "." then store.walk here rest
      else if step = ".." then store.walk here.dropLast rest
      else if step.utf8ByteSize > maxName then .error .nameTooLong
      else store.walk (here ++ [step]) rest

/-- Refuses texts that no path is written with. -/
def checkText (text : String) : Except IoFault Unit :=
  if text.toList.contains '\x00' then .error .nulInPath
  else if text.utf8ByteSize > maxPath then .error .nameTooLong
  else .ok ()

/-- Where the steps of a text start. -/
def base (store : Store) (text : String) : Path :=
  if startsAtRoot text then [] else store.home

/-- The path that a text stands for. -/
def resolve (store : Store) (text : String) : Except IoFault Path :=
  match checkText text with
  | .error fault => .error fault
  | .ok _ =>
    if text.isEmpty then .error .notFound else store.walk (store.base text) (pathSteps text)

/-- What is at the path that a text stands for. -/
def lookup? (store : Store) (text : String) : Option Entry :=
  match store.resolve text with
  | .error _ => none
  | .ok path =>
    match store.get? path with
    | some (.file _) | some .null => if endsInSlash text then none else store.get? path
    | other => other

/-! ### Reading -/

def read (store : Store) (text : String) : Except IoFault ByteArray :=
  match store.resolve text with
  | .error fault => .error fault
  | .ok path =>
    match store.get? path with
    | none => .error .notFound
    | some .directory => .error .isDirectory
    | some (.file content) => if endsInSlash text then .error .notDirectory else .ok content
    | some .null => if endsInSlash text then .error .notDirectory else .ok .empty

/-- Reads a file that must be UTF-8. -/
def readText (store : Store) (text : String) : Except IoFault String :=
  match store.read text with
  | .error fault => .error fault
  | .ok content =>
    match String.fromUTF8? content with
    | some content => .ok content
    | none => .error .notUtf8

def isFile (store : Store) (text : String) : Bool :=
  store.lookup? text matches some (.file _)

def isDirectory (store : Store) (text : String) : Bool :=
  store.lookup? text matches some .directory

/-- The names in a directory. -/
def names (store : Store) (path : Path) : List String :=
  store.entries.filterMap fun (other, _) =>
    if isUnder path other && other.length = path.length + 1 then other.getLast? else none

/-- The names in the directory of a text; nothing if it is none. -/
def namesAt (store : Store) (text : String) : List String :=
  match store.resolve text with
  | .error _ => []
  | .ok path => if store.get? path matches some .directory then store.names path else []

/-! ### Writing -/

/-- Writes a file, in place of the one that is there. -/
def write (store : Store) (text : String) (content : ByteArray) : Except IoFault Store :=
  match store.resolve text with
  | .error fault => .error fault
  | .ok path =>
    match store.get? path with
    | some .directory => .error .isDirectory
    | some (.file _) =>
      if endsInSlash text then .error .notDirectory else .ok (store.put path (.file content))
    | some .null => if endsInSlash text then .error .notDirectory else .ok store
    | none => if endsInSlash text then .error .isDirectory else .ok (store.put path (.file content))

/-- Removes a file. -/
def remove (store : Store) (text : String) : Except IoFault Store :=
  match store.resolve text with
  | .error fault => .error fault
  | .ok path =>
    match store.get? path with
    | none => .error .notFound
    | some .directory => .error .isDirectory
    | some (.file _) | some .null =>
      if endsInSlash text then .error .notDirectory else .ok (store.erase path)

/-- Moves a file or directory. A file takes the place of another file. -/
def rename (store : Store) (source target : String) : Except IoFault Store :=
  match checkText source, checkText target with
  | .error fault, _ | _, .error fault => .error fault
  | _, _ =>
    match store.resolve source with
    | .error fault => .error fault
    | .ok sourcePath =>
      match store.get? sourcePath with
      | none => .error .notFound
      | some entry =>
        match store.resolve target with
        | .error fault => .error fault
        | .ok targetPath =>
          match entry, store.get? targetPath with
          | .directory, some (.file _) | .directory, some .null => .error .notDirectory
          | .directory, occupied =>
            if sourcePath = targetPath then .ok store
            else if isUnder sourcePath targetPath then .error .invalidArgument
            else if occupied.isSome && store.hasChildren targetPath then .error .notEmpty
            else .ok (store.moveTree sourcePath targetPath)
          | _, some .directory => .error .isDirectory
          | file, _ =>
            if endsInSlash source || endsInSlash target then .error .notDirectory
            else .ok ((store.erase sourcePath).put targetPath file)

/-! ### Directories -/

/-- Makes the directory that the steps lead to from a base. -/
def makeDirectoryAt (store : Store) (base : Path) (steps : List String) : Except IoFault Store :=
  match store.walk base steps with
  | .error fault => .error fault
  | .ok path =>
    match store.get? path with
    | some _ => .error .alreadyExists
    | none => .ok (store.put path .directory)

def isDirectoryAt (store : Store) (base : Path) (steps : List String) : Bool :=
  match store.walk base steps with
  | .error _ => false
  | .ok path => store.get? path matches some .directory

/-- Makes a directory, if need be after what is above it. A directory that is there is as good. -/
def ensureDirectory (store : Store) (base : Path) (steps : List String)
    (above : Store → Store × Option IoFault) : Store × Option IoFault :=
  let given (store : Store) (fault : IoFault) : Store × Option IoFault :=
    (store, if store.isDirectoryAt base steps then none else some fault)
  match store.makeDirectoryAt base steps with
  | .ok store => (store, none)
  | .error .notFound =>
    match above store with
    | (store, some fault) => (store, some fault)
    | (store, none) =>
      match store.makeDirectoryAt base steps with
      | .ok store => (store, none)
      | .error fault => given store fault
  | .error fault => given store fault

/-- Makes a directory and the ones above it where they are missing. The steps are given last
first. -/
def makeDirectoriesAt (store : Store) (base : Path) : List String → Store × Option IoFault
  | [] => (store, none)
  | step :: above =>
    store.ensureDirectory base (step :: above).reverse fun store =>
      store.makeDirectoriesAt base above

/-- The steps of a text without the ones that stay where they are, except for a first one that no
slash stands before. -/
def plainSteps (text : String) : List String :=
  match pathSteps text with
  | [] => []
  | step :: rest =>
    if startsAtRoot text then (step :: rest).filter (· != ".") else step :: rest.filter (· != ".")

/-- Makes a directory and the ones above it. Nothing is to be made for the empty path. -/
def makeDirectories (store : Store) (text : String) : Store × Option IoFault :=
  match checkText text with
  | .error fault => (store, some fault)
  | .ok _ =>
    if text.isEmpty then (store, none)
    else
      let base := store.base text
      store.ensureDirectory base (pathSteps text) fun store =>
        store.makeDirectoriesAt base (plainSteps text).reverse.tail

/-- Makes one directory. -/
def makeDirectory (store : Store) (text : String) : Except IoFault Store :=
  match checkText text with
  | .error fault => .error fault
  | .ok _ =>
    if text.isEmpty then .error .notFound
    else store.makeDirectoryAt (store.base text) (pathSteps text)

/-- Removes what is at a path, whatever it is. -/
def removeTree (store : Store) (text : String) : Except IoFault Store :=
  match store.resolve text with
  | .error fault => .error fault
  | .ok path =>
    match store.get? path with
    | none => .error .notFound
    | some _ => .ok (store.eraseTree path)

end Store

end TreeSchema
