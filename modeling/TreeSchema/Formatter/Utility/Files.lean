import TreeSchema.Formatter.Utility.Basic

/-!
Programs that copy, move, make and remove files and directories.
-/

namespace TreeSchema.Utility

open Text (Octets)

/-- The last name of a path. -/
def lastName (path : Octets) : Octets :=
  (pathSteps path).getLastD (if startsAtRoot path then "/" else "")

/-- The place of a file that is moved or copied to a directory or a file. -/
def destination (store : Store) (source target : Octets) (inside : Bool) : Octets :=
  if inside && store.isDirectory target.decode then joinPath target (lastName source) else target

/-- Whether two texts lead to the same file or directory. -/
def samePlace (store : Store) (a b : Octets) : Bool :=
  match store.resolve a.decode, store.resolve b.decode with
  | .ok path, .ok other => path == other && (store.get? path).isSome
  | _, _ => false

/-- What is at a path, or why nothing is. -/
def placeOf (store : Store) (path : Octets) : Except IoFault (Path × Entry) := do
  let place ← store.resolve path.decode
  match store.get? place with
  | none => throw .notFound
  | some .directory => return (place, .directory)
  | some entry => if endsInSlash path then throw .notDirectory else return (place, entry)

/-! ### Reading -/

/-- Whether a file that is read is the one that is written, which would never end. -/
def readsItself (path : Octets) : Task Bool := do
  let process ← get
  let place? : Option Path :=
    if path = "-" then process.source? else (process.store.resolve path.decode).toOption
  match place?, process.target? with
  | some place, some (target, offset) => return place == target && offset > 0
  | _, _ => return false

/-- The lines with their numbers before them. -/
def numbered (blanks : Bool) : Nat → List Octets → List Octets
  | _, [] => []
  | number, line :: rest =>
    if blanks || chomp line != "" then
      let digits := toString number
      (String.ofList (List.replicate (6 - digits.length) ' ') ++ digits ++ "\t" ++ line) ::
        numbered blanks (number + 1) rest
    else line :: numbered blanks number rest

/-- Leaves one of several empty lines after each other. -/
def squeezed : List Octets → List Octets
  | first :: second :: rest =>
    if first = "\n" && second = "\n" then squeezed (second :: rest)
    else first :: squeezed (second :: rest)
  | rest => rest

/-- A character as it is shown where only printable ones are. -/
def visible (c : Char) : Octets :=
  if c = '\t' || c = '\n' then String.singleton c
  else
    let low := Char.ofNat (c.toNat % 128)
    let text := if low.toNat < 32 then s!"^{Char.ofNat (low.toNat + 64)}"
      else if low.toNat = 127 then "^?"
      else String.singleton low
    if c.toNat < 128 then text else "M-" ++ text

/-- A line with its end shown. -/
def withVisibleEnd (line : Octets) : Octets :=
  if line.endsWith "\r\n" then ((chomp line).dropEnd 1).toString ++ "^M$\n"
  else if line.endsWith "\n" then chomp line ++ "$\n"
  else line

def catStyle (arguments : Arguments) (text : Octets) : Octets :=
  let has := arguments.has
  if arguments.flags.isEmpty then text
  else
    let found := lines text
    let found := if has 's' then squeezed found else found
    let found :=
      if has 'v' || has 'A' || has 'e' || has 't' then
        found.map fun line => String.join (line.toList.map visible)
      else found
    let found :=
      if has 'T' || has 'A' || has 't' then found.map fun line => "^I".intercalate (line.splitOn "\t")
      else found
    let found := if has 'E' || has 'A' || has 'e' then found.map withVisibleEnd else found
    let found :=
      if has 'b' then numbered false 1 found else if has 'n' then numbered true 1 found else found
    String.join found

def catFile (arguments : Arguments) (path : Octets) : Task Unit := do
  if ← readsItself path then Task.complain s!"{shown path}: input file is output file"
  else
    match ← Task.readFile path with
    | .ok content => Task.say (catStyle arguments content)
    | .error fault => Task.complain s!"{shown path}: {fault.reason}"

def cat : Utility := fun args =>
  withArguments "AbeEnstTuv" "" args 1 fun arguments =>
    (if arguments.operands.isEmpty then ["-"] else arguments.operands).forM (catFile arguments)

/-- Copies its input to files and to its output. -/
def tee : Utility := fun args =>
  withArguments "aip" "" args 1 fun arguments => do
    let content ← Task.takeInput
    arguments.operands.forM fun path => do
      let old ← if arguments.has 'a' then
          pure (((← Task.store).read path.decode).toOption.map Octets.ofBytes)
        else pure none
      match ← Task.writeFile path (old.getD "" ++ content) with
      | .ok _ => return ()
      | .error fault => Task.complain s!"{shown path}: {fault.reason}"
    Task.say content

/-! ### Removing -/

def removeOne (arguments : Arguments) (path : Octets) : Task Unit := do
  let store ← Task.store
  let recursive := arguments.has 'r' || arguments.has 'R'
  if recursive && [".", ".."].contains (lastName path) then
    Task.complain s!"refusing to remove '.' or '..' directory: skipping {inQuotes path}"
  else
    let result : Except IoFault Store := match placeOf store path with
      | .ok (place, .directory) =>
        if recursive then .ok (store.eraseTree place)
        else if !arguments.has 'd' then .error .isDirectory
        else if store.hasChildren place then .error .notEmpty
        else .ok (store.erase place)
      | .ok (place, _) => .ok (store.erase place)
      | .error fault => .error fault
    match result with
    | .ok store =>
      Task.setStore store
      if arguments.has 'v' then Task.say s!"removed {inQuotes path}\n"
    | .error fault =>
      unless arguments.has 'f' && (fault = .notFound || fault = .notDirectory) do
        Task.complain s!"cannot remove {inQuotes path}: {fault.reason}"

def rm : Utility := fun args =>
  withArguments "dfirRv" "" args 1 fun arguments => do
    if arguments.operands.isEmpty && !arguments.has 'f' then
      Task.complainOfUse "missing operand" 1
    arguments.operands.forM (removeOne arguments)

def rmdirOne (path : Octets) : Task Unit := do
  let store ← Task.store
  let result : Except IoFault Store := match placeOf store path with
    | .ok (place, .directory) =>
      if lastName path = "." then .error .invalidArgument
      else if store.hasChildren place then .error .notEmpty
      else .ok (store.erase place)
    | .ok _ => .error .notDirectory
    | .error fault => .error fault
  match result with
  | .ok store => Task.setStore store
  | .error fault => Task.complain s!"failed to remove {inQuotes path}: {fault.reason}"

def rmdir : Utility := fun args =>
  withArguments "pv" "" args 1 fun arguments => do
    if arguments.operands.isEmpty then Task.complainOfUse "missing operand" 1
    arguments.operands.forM rmdirOne

/-! ### Moving and copying -/

/-- What is left when something is copied from one path to another. -/
def copyTree (store : Store) (source target : Path) : Store :=
  let copies := store.entries.filterMap fun (path, entry) =>
    if Store.isUnder source path then some (target ++ path.drop source.length, entry) else none
  copies.foldl (fun store (path, entry) =>
    match entry, store.get? path with
    | .directory, some .directory => store
    | entry, _ => store.put path entry) store

/-- How files are moved or copied. -/
structure TransferStyle where
  recursive : Bool
  /-- Whether files that are there are kept. -/
  keeps : Bool
  /-- Whether each file is named. -/
  verbose : Bool

def moveOne (style : TransferStyle) (source target : Octets) (inside : Bool) : Task Unit := do
  let store ← Task.store
  match placeOf store source with
  | .error fault => Task.complain s!"cannot stat {inQuotes source}: {fault.reason}"
  | .ok (_, entry) =>
    let place := destination store source target inside
    if style.keeps && (store.lookup? place.decode).isSome then return ()
    if samePlace store source place then
      Task.complain s!"{inQuotes source} and {inQuotes place} are the same file"
    else
      match entry, store.lookup? place.decode with
      | .directory, some (.file _) =>
        Task.complain
          s!"cannot overwrite non-directory {inQuotes place} with directory {inQuotes source}"
      | .file _, some .directory =>
        Task.complain s!"cannot overwrite directory {inQuotes place} with non-directory"
      | _, _ =>
        match store.rename source.decode place.decode with
        | .ok store =>
          Task.setStore store
          if style.verbose then Task.say s!"renamed {inQuotes source} -> {inQuotes place}\n"
        | .error .invalidArgument =>
          Task.complain
            s!"cannot move {inQuotes source} to a subdirectory of itself, {inQuotes place}"
        | .error fault =>
          Task.complain s!"cannot move {inQuotes source} to {inQuotes place}: {fault.reason}"

def copyOne (style : TransferStyle) (source target : Octets) (inside : Bool) : Task Unit := do
  let store ← Task.store
  let place := destination store source target inside
  let finish (store : Store) : Task Unit := do
    Task.setStore store
    if style.verbose then Task.say s!"{inQuotes source} -> {inQuotes place}\n"
  match placeOf store source with
  | .error fault => Task.complain s!"cannot stat {inQuotes source}: {fault.reason}"
  | .ok (from?, .directory) =>
    if !style.recursive then Task.complain s!"-r not specified; omitting directory {inQuotes source}"
    else
      match store.resolve place.decode with
      | .error fault => Task.complain s!"cannot create directory {inQuotes place}: {fault.reason}"
      | .ok path =>
        if Store.isUnder from? path then
          Task.complain
            s!"cannot copy a directory, {inQuotes source}, into itself, {inQuotes place}"
        else
          match store.get? path with
          | some (.file _) =>
            Task.complain
              s!"cannot overwrite non-directory {inQuotes place} with directory {inQuotes source}"
          | _ => finish (copyTree store from? path)
  | .ok (_, entry) =>
    if style.keeps && (store.lookup? place.decode).isSome then return ()
    if samePlace store source place then
      Task.complain s!"{inQuotes source} and {inQuotes place} are the same file"
    else
      let content := match entry with
        | .file content => content
        | _ => .empty
      match store.write place.decode content with
      | .ok store => finish store
      | .error .isDirectory =>
        if endsInSlash place then
          Task.complain s!"cannot create regular file {inQuotes place}: Not a directory"
        else Task.complain s!"cannot overwrite directory {inQuotes place} with non-directory"
      | .error fault =>
        Task.complain s!"cannot create regular file {inQuotes place}: {fault.reason}"

/-- Moves or copies files to the last of the arguments, which must be a directory if there are
several. -/
def transfer (move : TransferStyle → Octets → Octets → Bool → Task Unit) (arguments : Arguments) :
    Task Unit := do
  let one := move {
    recursive := ['a', 'r', 'R'].any arguments.has
    keeps := arguments.has 'n'
    verbose := arguments.has 'v' }
  match arguments.operands with
  | [] => Task.complainOfUse "missing file operand" 1
  | [source] => Task.complainOfUse s!"missing destination file operand after {inQuotes source}" 1
  | [source, target] => one source target (!arguments.has 'T')
  | operands =>
    let target := operands.getLastD ""
    match placeOf (← Task.store) target with
    | .ok (_, .directory) => operands.dropLast.forM fun source => one source target true
    | .ok _ => Task.complain s!"target {inQuotes target}: Not a directory"
    | .error fault => Task.complain s!"target {inQuotes target}: {fault.reason}"

def mv : Utility := fun args =>
  withArguments "finTuv" "" args 1 (transfer moveOne)

def cp : Utility := fun args =>
  withArguments "adfilnpPrRTuv" "" args 1 (transfer copyOne)

/-! ### Making -/

def touchOne (create : Bool) (path : Octets) : Task Unit := do
  let store ← Task.store
  match placeOf store path with
  | .ok _ => return ()
  | .error .notFound =>
    if create then
      match store.write path.decode .empty with
      | .ok store => Task.setStore store
      | .error .isDirectory =>
        Task.complain s!"setting times of {inQuotes path}: No such file or directory"
      | .error fault => Task.complain s!"cannot touch {inQuotes path}: {fault.reason}"
  | .error fault => Task.complain s!"cannot touch {inQuotes path}: {fault.reason}"

def touch : Utility := fun args =>
  withArguments "acfm" "drt" args 1 fun arguments => do
    if arguments.operands.isEmpty then Task.complainOfUse "missing file operand" 1
    arguments.operands.forM (touchOne (!arguments.has 'c'))

/-- The texts up to each step of a path, and then the whole text. -/
def pathStarts (path : Octets) : List Octets :=
  let ends := (List.range path.length).filter fun index =>
    let rest := path.toList.drop index
    index > 0 && rest.head? == some '/' && (path.toList.drop (index - 1)).head? != some '/' &&
      rest.any (· != '/')
  ends.map (takeOctets · path) ++ [path]

/-- Makes a directory; with parents it may be there already. -/
def mkdirStep (parents verbose last : Bool) (path : Octets) : Task Bool := do
  let store ← Task.store
  match store.makeDirectory path.decode with
  | .ok store =>
    Task.setStore store
    if verbose then Task.say s!"mkdir: created directory {inQuotes path}\n"
    return true
  | .error fault =>
    if parents && store.isDirectory path.decode then return true
    let fault := if fault = .alreadyExists && !last then .notDirectory else fault
    Task.complain s!"cannot create directory {inQuotes path}: {fault.reason}"
    return false

/-- Makes directories until one cannot be made. -/
def mkdirSteps (verbose : Bool) : List Octets → Task Unit
  | [] => return ()
  | path :: rest => do
    if ← mkdirStep true verbose rest.isEmpty path then mkdirSteps verbose rest

def mkdir : Utility := fun args =>
  withArguments "pv" "m" args 1 fun arguments => do
    if arguments.operands.isEmpty then Task.complainOfUse "missing operand" 1
    let verbose := arguments.has 'v'
    arguments.operands.forM fun path => do
      if arguments.has 'p' then mkdirSteps verbose (pathStarts path)
      else discard (mkdirStep false verbose true path)

/-- Whether a text says who may do what with a file: digits below eight, or clauses that give, take
or set permissions. -/
def isFileMode (text : Octets) : Bool :=
  let isOctal := !text.isEmpty && text.length ≤ 4 && text.toList.all fun c => '0' ≤ c && c ≤ '7'
  let isClause (clause : Octets) : Bool :=
    match clause.toList.dropWhile ['u', 'g', 'o', 'a'].contains with
    | sign :: rest =>
      ['+', '-', '='].contains sign &&
        rest.all ['r', 'w', 'x', 'X', 's', 't', 'u', 'g', 'o', '+', '-', '='].contains
    | [] => false
  isOctal || (text.splitOn ",").all isClause

/-- Changes who may use files, of which the store keeps nothing. -/
def chmod : Utility := fun args => do
  match args.filter fun arg => !(["-R", "-v", "-f", "--"].contains arg) with
  | [] => Task.complainOfUse "missing operand" 1
  | [mode] => Task.complainOfUse s!"missing operand after {inQuotes mode}" 1
  | mode :: paths =>
    if isFileMode mode then
      paths.forM fun path => do
        match placeOf (← Task.store) path with
        | .ok _ => return ()
        | .error fault => Task.complain s!"cannot access {inQuotes path}: {fault.reason}"
    else Task.complainOfUse s!"invalid mode: {inQuotes mode}" 1

/-- Copies a file to another path, or into a directory under its own name; a store has no other
links between files. -/
def ln : Utility := fun args =>
  withArguments "sfnTvr" "" args 1 fun arguments => do
    match arguments.operands with
    | [] => Task.complainOfUse "missing file operand" 1
    | operands =>
      let target := if operands.length = 1 then "." else operands.getLastD "."
      let sources := if operands.length = 1 then operands else operands.dropLast
      let kind := if arguments.has 's' then "symbolic link" else "hard link"
      sources.forM fun source => do
        let store ← Task.store
        let place := destination store source target (!arguments.has 'T')
        match placeOf store source with
        | .error fault =>
          unless arguments.has 's' do
            Task.complain s!"failed to access {inQuotes source}: {fault.reason}"
        | .ok (_, .file content) =>
          if (store.lookup? place.decode).isSome && !arguments.has 'f' then
            Task.complain s!"failed to create {kind} {inQuotes place}: File exists"
          else
            match store.write place.decode content with
            | .ok store => Task.setStore store
            | .error fault =>
              Task.complain s!"failed to create {kind} {inQuotes place}: {fault.reason}"
        | .ok _ =>
          unless arguments.has 's' do
            Task.complain s!"{source}: hard link not allowed for directory"

/-! ### Listing -/

/-- The names in a directory that are listed. -/
def listedNames (arguments : Arguments) (store : Store) (path : Path) : List Octets :=
  let names := ((store.names path).map Octets.encode).mergeSort fun a b => a ≤ b
  let hidden := arguments.has 'a' || arguments.has 'A'
  let names := if hidden then names else names.filter fun name => !name.startsWith "."
  let names := if arguments.has 'a' then "." :: ".." :: names else names
  if arguments.has 'r' then names.reverse else names

/-- A name as it is listed. -/
def listedName (arguments : Arguments) (store : Store) (directory name : Octets) : Octets :=
  let isDirectory := store.isDirectory (Octets.decode (joinPath directory name))
  if isDirectory && (arguments.has 'F' || arguments.has 'p') then name ++ "/" else name

/-- Lists a directory and, if that is asked for, the directories in it. -/
def listDirectory (arguments : Arguments) (titled : Bool) :
    (fuel : Nat) → (path : Octets) → (place : Path) → Task Unit
  | 0, _, _ => return ()
  | fuel + 1, path, place => do
    let store ← Task.store
    let recursive := arguments.has 'R'
    if titled || recursive then Task.say s!"{path}:\n"
    let names := listedNames arguments store place
    names.forM fun name => Task.say (listedName arguments store path name ++ "\n")
    if recursive then
      (names.filter fun name => name != "." && name != "..").forM fun name => do
        let place := place ++ [Octets.decode name]
        if store.get? place matches some .directory then
          Task.say "\n"
          listDirectory arguments titled fuel (joinPath path name) place

/-- Lists directories with an empty line between them. -/
def listDirectories (arguments : Arguments) (titled : Bool) :
    List (Octets × Path) → Task Unit
  | [] => return ()
  | [(path, place)] => listDirectory arguments titled 64 path place
  | (path, place) :: rest => do
    listDirectory arguments titled 64 path place
    Task.say "\n"
    listDirectories arguments titled rest

def ls : Utility := fun args =>
  withArguments "1aAdFprRCt" "" args 2 fun arguments => do
    let store ← Task.store
    let operands := if arguments.operands.isEmpty then ["."] else arguments.operands
    let operands := operands.mergeSort fun a b => a ≤ b
    let found ← operands.filterMapM fun path => do
      match placeOf store path with
      | .ok (place, entry) => return some (path, place, entry)
      | .error fault =>
        Task.warn s!"cannot access {inQuotes path}: {fault.reason}"
        Task.setStatus 2
        return none
    let isDirectory (item : Octets × Path × Entry) : Bool :=
      item.2.2 matches .directory && !arguments.has 'd'
    let files := found.filter fun item => !isDirectory item
    let directories := (found.filter isDirectory).map fun (path, place, _) => (path, place)
    files.forM fun (path, _) => Task.say (listedName arguments store "" path ++ "\n")
    if !files.isEmpty && !directories.isEmpty then Task.say "\n"
    listDirectories arguments (operands.length > 1) directories

end TreeSchema.Utility
