import VirtualShell.Entries
import VirtualShell.Store.FileName
/-
  A disk as a store of snapshots sees it: files with bytes, folders with entries.

  Only what making folders and reading, writing, renaming and removing single files needs
  is here. There are no links: what stands under a name stands under no other. A path is
  walked step by step: every step but the last has to lead to a folder, also where a later
  step leads back.
-/

namespace VirtualShell

/-- What stands under a name on a disk. -/
inductive DiskEntry where
  | file (bytes : List UInt8)
  | folder (entries : List (Text × DiskEntry))

/-- Why the disk refuses an access. -/
inductive DiskFault where
  /-- Something on the way does not exist. -/
  | notFound
  /-- A folder stands where a file is needed. -/
  | isFolder
  /-- A file stands where a folder is needed on the way. -/
  | notFolder
  /-- Something stands where a folder is to be made. -/
  | occupied
  /-- A name or a path is too long. -/
  | nameTooLong
  deriving DecidableEq, Repr

namespace DiskEntry

/-- What stands under names that lead straight down. -/
def at? : List Text → DiskEntry → Option DiskEntry
  | [], entry => some entry
  | _ :: _, file _ => none
  | name :: names, folder entries => do at? names (← Entries.get? name entries)

/-- The disk with the entry under the names replaced or, with nothing given, removed. The
folder that it lies in has to be there. -/
def set : List Text → Option DiskEntry → DiskEntry → DiskEntry
  | [], some entry, _ => entry
  | [], none, old => old
  | _ :: _, _, file bytes => file bytes
  | [name], some entry, folder entries => folder (Entries.put name entry entries)
  | [name], none, folder entries => folder (Entries.erase name entries)
  | name :: next :: names, entry, folder entries =>
    folder (Entries.modify name (set (next :: names) entry) entries)

/-- Where a step leads from a place. -/
def step (disk : DiskEntry) (place : List Text) (name : Text) : Except DiskFault (List Text) :=
  match disk.at? place with
  | some (folder entries) =>
    if name = "." || name = [] then .ok place
    else if name = ".." then .ok place.dropLast
    else if 255 < FileName.size name then .error .nameTooLong
    else if Entries.has name entries then .ok (place ++ [name])
    else .error .notFound
  | _ => .error .notFolder

/-- Where a path leads. -/
def walk (disk : DiskEntry) (path : DiskPath) : Except DiskFault (List Text) :=
  if path.isTooLong then .error .nameTooLong else path.foldlM disk.step []

/-- Where a path leads whose last name need not be there yet. -/
def slot (disk : DiskEntry) (path : DiskPath) : Except DiskFault (List Text) := do
  if path.isTooLong then throw .nameTooLong
  match path.getLast? with
  | none => return []
  | some name =>
    let place ← path.dropLast.foldlM disk.step []
    match disk.step place name with
    | .error .notFound => return place ++ [name]
    | found => found

/-- What stands at a path, if it leads anywhere. -/
def find? (disk : DiskEntry) (path : DiskPath) : Option DiskEntry :=
  match disk.walk path with
  | .ok place => disk.at? place
  | .error _ => none

/-- The names in the folder at a path. -/
def names? (path : DiskPath) (disk : DiskEntry) : Option (List Text) :=
  match disk.find? path with
  | some (folder entries) => some (Entries.keys entries)
  | _ => none

/-- The bytes of the file at a path. -/
def bytesAt (path : DiskPath) (disk : DiskEntry) : Except DiskFault (List UInt8) := do
  match disk.at? (← disk.walk path) with
  | some (file bytes) => return bytes
  | some (folder _) => throw .isFolder
  | none => throw .notFound

/-- The disk with the given bytes in the file at a path, which is made if need be. -/
def putBytes (path : DiskPath) (bytes : List UInt8) (disk : DiskEntry) :
    Except DiskFault DiskEntry := do
  let place ← disk.slot path
  match disk.at? place with
  | some (folder _) => throw .isFolder
  | _ => return disk.set place (some (file bytes))

/-- The disk with an empty folder at a path where there is nothing. -/
def makeFolder (path : DiskPath) (disk : DiskEntry) : Except DiskFault DiskEntry := do
  let place ← disk.slot path
  match disk.at? place with
  | some _ => throw .occupied
  | none => return disk.set place (some (folder []))

/-- A folder made at the path whose names are given from the last one up, and before it every
folder that the way there lacks. A folder that is there already will do if that is
permitted. What was made stays, whatever comes after. -/
def makeFoldersUp (mayExist : Bool) : List Text → DiskEntry → Except DiskFault Unit × DiskEntry
  | [], disk => (if mayExist then .ok () else .error .occupied, disk)
  | name :: above, disk =>
    let lacking := above ≠ [] && (disk.find? above.reverse).isNone
    let (way, disk) := if lacking then makeFoldersUp mayExist above disk else (.ok (), disk)
    let path := (name :: above).reverse
    if way matches .error .occupied | .ok () then
      if lacking && name = "." then (.ok (), disk)
      else match disk.makeFolder path with
        | .ok disk => (.ok (), disk)
        | .error fault =>
          (if mayExist && (disk.names? path).isSome then .ok () else .error fault, disk)
    else (way, disk)

/-- A folder made at a path, with every folder that the way there lacks. -/
def makeFolders (mayExist : Bool) (path : DiskPath) (disk : DiskEntry) :
    Except DiskFault Unit × DiskEntry :=
  makeFoldersUp mayExist (path.filter (· ≠ [])).reverse disk

/-- The disk after the file at `source` was moved over whatever file is at `target`. -/
def replaceFile (source target : DiskPath) (disk : DiskEntry) : Except DiskFault DiskEntry := do
  let origin ← disk.walk source
  let place ← disk.slot target
  match disk.at? origin, disk.at? place with
  | some (file _), some (folder _) => throw .isFolder
  | some (file bytes), _ => return (disk.set place (some (file bytes))).set origin none
  | some (folder _), _ => throw .isFolder
  | none, _ => throw .notFound

/-- The disk without the file at a path; a folder is not removed. -/
def removeFile (path : DiskPath) (disk : DiskEntry) : Except DiskFault DiskEntry := do
  let place ← disk.walk path
  match disk.at? place with
  | some (folder _) => throw .isFolder
  | _ => return disk.set place none

end DiskEntry

end VirtualShell
