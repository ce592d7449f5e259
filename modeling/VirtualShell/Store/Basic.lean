import VirtualShell.Store.Trouble
/-
  Stores of snapshots: text under keys.

  A store keeps its texts in memory or in a folder of a disk, one file a key. In a
  folder a text is first written to a temporary file, which then takes the place of the
  old one, so the old text stays until the new one is complete; should that fail, the
  temporary file is removed. The disk may make trouble in any of these steps; in what a
  store is asked to do it makes none. The store counts the writes it was asked for, and
  each of them can be set to be refused.
-/

namespace VirtualShell

/-- Where the texts of a store are kept. -/
inductive Backing where
  /-- Nowhere: every access fails in the same way. -/
  | nowhere (fault : StoreFault)
  | memory (texts : Entries Text)
  | folder (path : DiskPath) (disk : DiskEntry)

namespace Backing

/-- The folder of a disk that a text leads to. -/
def ofFolder (folder : Text) (disk : DiskEntry) : Backing :=
  match DiskPath.steps? folder with
  | .ok path => .folder path disk
  | .error fault => .nowhere (.name fault)

/-- The path of the file that holds the text under a key in the folder at `path`. -/
def textPath? (path : DiskPath) (key : Text) : Except FileNameFault DiskPath :=
  path.followed? (key ++ ".json")

/-- The path of the file in which a text is first written. -/
def draftPath? (path : DiskPath) (key : Text) : Except FileNameFault DiskPath :=
  path.followed? (key ++ ".json.tmp")

/-- The text under a key. A file that cannot be reached holds none, a file whose bytes
are not UTF-8 is a fault. -/
def read (key : Text) : Backing → Except StoreFault (Option Text)
  | nowhere fault => .error fault
  | memory texts => .ok (texts.get? key)
  | folder path disk => match textPath? path key with
    | .error fault => .error (.name fault)
    | .ok path => match disk.bytesAt path with
      | .error _ => .ok none
      | .ok bytes => match Text.ofUtf8? bytes with
        | some t => .ok (some t.withLineFeeds)
        | none => .error .notUtf8

/-- What comes of a failure to write: the temporary file is removed, if it is seen, and the
fault is reported, or else the one that comes up in removing. -/
def cleanUp (trouble : Trouble) (draft : DiskPath) (fault : StoreFault) (disk : DiskEntry) :
    Except StoreFault Unit × DiskEntry :=
  if trouble.sees draft disk then
    match trouble.removeFile draft disk with
    | .ok disk => (.error fault, disk)
    | .error fault => (.error fault, disk)
  else (.error fault, disk)

/-- Bytes put into the file at `final` by way of the one at `draft`. -/
def putByWay (trouble : Trouble) (draft final : DiskPath) (bytes : List UInt8)
    (disk : DiskEntry) : Except StoreFault Unit × DiskEntry :=
  match trouble.putBytes draft bytes disk with
  | (.error fault, disk) => cleanUp trouble draft fault disk
  | (.ok (), disk) => match trouble.replaceFile draft final disk with
    | .error fault => cleanUp trouble draft fault disk
    | .ok disk => (.ok (), disk)

/-- A text put into the file at `final` by way of the one at `draft`. A text without a
UTF-8 form leaves the latter behind, empty. -/
def putText (trouble : Trouble) (draft final : DiskPath) (data : Text) (disk : DiskEntry) :
    Except StoreFault Unit × DiskEntry :=
  match data.utf8? with
  | some bytes => putByWay trouble draft final bytes disk
  | none => match trouble.putBytes draft [] disk with
    | (.error fault, disk) => cleanUp trouble draft fault disk
    | (.ok (), disk) => (.error .noUtf8, disk)

/-- A text put into the folder at `path`, which is made if need be. -/
def writeToFolder (trouble : Trouble) (path : DiskPath) (key data : Text) (disk : DiskEntry) :
    Except StoreFault Unit × DiskEntry :=
  match trouble.makeFolders path disk with
  | (.error fault, disk) => (.error fault, disk)
  | (.ok (), disk) => match draftPath? path key, textPath? path key with
    | .ok draft, .ok final => putText trouble draft final data disk
    | .error fault, _ => (.error (.name fault), disk)
    | _, .error fault => (.error (.name fault), disk)

/-- A text put under a key on a disk that may make trouble. -/
def writeIn (trouble : Trouble) (key data : Text) : Backing → Except StoreFault Unit × Backing
  | nowhere fault => (.error fault, nowhere fault)
  | memory texts => (.ok (), memory (texts.put key data))
  | folder path disk =>
    let (result, disk) := writeToFolder trouble path key data disk
    (result, folder path disk)

/-- A text put under a key by a disk that makes no trouble. -/
def write (key data : Text) (backing : Backing) : Except StoreFault Unit × Backing :=
  backing.writeIn {} key data

end Backing

/-- A store: where the texts are, how many writes it was asked for, and which of
them, counted from one, are refused. -/
structure Store where
  backing : Backing
  writes : Nat := 0
  refuses : Nat → Bool := fun _ => false

namespace Store

/-- An empty store in memory. -/
def empty : Store := ⟨.memory [], 0, fun _ => false⟩

/-- The text under a key. -/
def read (store : Store) (key : Text) : Except StoreFault (Option Text) := store.backing.read key

/-- A text put under a key. A refused write counts and changes nothing. -/
def write (store : Store) (key data : Text) : Except StoreFault Unit × Store :=
  let attempt := store.writes + 1
  if store.refuses attempt then (.error .diskFull, { store with writes := attempt })
  else
    let (result, backing) := store.backing.write key data
    (result, { store with backing := backing, writes := attempt })

end Store

end VirtualShell
