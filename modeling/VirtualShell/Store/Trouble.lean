import VirtualShell.Store.Disk
/-
  What a store fails at, and what a disk may refuse it in the course of a write.

  A disk refuses an access when what is on it stands in the way, as `DiskEntry` has it. It may also
  refuse one for reasons of its own: it is full, it does not permit it, it breaks down. Which of the
  accesses of one write it refuses like that is the trouble of the write, and each access is given
  here with what is left of it in trouble. Without any it goes as `DiskEntry` has it.
-/

namespace VirtualShell

/-- Why a store does not do what it is asked. -/
inductive StoreFault where
  /-- There is nothing behind the store. -/
  | nothingBehind
  /-- The write was set to be refused, or the disk refused it for a reason of its own. -/
  | diskFull
  /-- The disk refused the access. -/
  | disk (fault : DiskFault)
  /-- The bytes of a file are not UTF-8. -/
  | notUtf8
  /-- The text has no UTF-8 form. -/
  | noUtf8
  /-- The key or the folder makes no name on a disk. -/
  | name (fault : FileNameFault)
  deriving DecidableEq, Repr

/-- Whether it is the disk that failed. -/
def StoreFault.isOfDisk : StoreFault → Bool
  | diskFull => true
  | disk _ => true
  | _ => false

/-- A fault that a disk gives as its reason. -/
structure DiskRefusal where
  fault : StoreFault
  isOfDisk : fault.isOfDisk = true

/-- What a disk refuses in the course of a write for reasons of its own. -/
structure Trouble where
  /-- To make the folders, after so many names of the way. -/
  making : Option (Nat × DiskRefusal) := none
  /-- To open the temporary file. -/
  opening : Option DiskRefusal := none
  /-- To write into it, after so many bytes. -/
  writing : Option (Nat × DiskRefusal) := none
  /-- To move it over the old text. -/
  moving : Option DiskRefusal := none
  /-- To look whether it is there, which then counts as no. -/
  seeing : Bool := false
  /-- To remove it. -/
  removing : Option DiskRefusal := none

/-- What comes of an access that ends as given unless the disk refuses it. -/
def unlessRefused {α : Type} (refusal : Option DiskRefusal) (found : Except DiskFault α) :
    Except StoreFault α :=
  match refusal with
  | some refusal => .error refusal.fault
  | none => found.mapError .disk

namespace Trouble

/-- A folder made at a path with those that the way there lacks, or the first of them. -/
def makeFolders (trouble : Trouble) (path : DiskPath) (disk : DiskEntry) :
    Except StoreFault Unit × DiskEntry :=
  match trouble.making with
  | some (n, refusal) => (.error refusal.fault, (disk.makeFolders true (path.take n)).2)
  | none =>
    let (result, disk) := disk.makeFolders true path
    (result.mapError .disk, disk)

/-- Bytes put into the file at a path, or the first of them. -/
def putBytes (trouble : Trouble) (path : DiskPath) (bytes : List UInt8) (disk : DiskEntry) :
    Except StoreFault Unit × DiskEntry :=
  let (part, result) : List UInt8 × Except StoreFault Unit := match trouble.writing with
    | some (n, refusal) => (bytes.take n, .error refusal.fault)
    | none => (bytes, .ok ())
  match unlessRefused trouble.opening (disk.putBytes path part) with
  | .ok disk => (result, disk)
  | .error fault => (.error fault, disk)

/-- The disk after the file at `source` was moved over whatever file is at `target`. -/
def replaceFile (trouble : Trouble) (source target : DiskPath) (disk : DiskEntry) :
    Except StoreFault DiskEntry :=
  unlessRefused trouble.moving (disk.replaceFile source target)

/-- Whether something is seen at a path. -/
def sees (trouble : Trouble) (path : DiskPath) (disk : DiskEntry) : Bool :=
  !trouble.seeing && (disk.find? path).isSome

/-- The disk without the file at a path. -/
def removeFile (trouble : Trouble) (path : DiskPath) (disk : DiskEntry) :
    Except StoreFault DiskEntry :=
  unlessRefused trouble.removing (disk.removeFile path)

end Trouble

end VirtualShell
