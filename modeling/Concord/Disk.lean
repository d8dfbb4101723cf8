import Concord.Failure
import Concord.Text.Parts

/-!
# The disk

The program runs in a folder of its own, and paths lead from there, or from the root, to a place on
the disk (`Disk.walk`). Besides the files given, the disk has the folders and files that every
machine has. A file is read where a path leads (`Disk.contentAt`). One that is written to may be
new, and its path is cleared of detours first, without a look at the disk (`Disk.appendTo`).

The main statement is `Disk.find_put`: a file is found where it was put.
-/

namespace Concord

/-- What stands at a place. -/
inductive Entry where
  | folder
  | file (content : ByteArray)

/-- Why a path does not lead to a file. -/
inductive PathFault where
  | missing
  | notFolder
  | isFolder
  | tooLong
deriving DecidableEq

/-- The number and the text of a fault of a path. -/
def PathFault.describe : PathFault → Int × String
  | missing => (2, "No such file or directory")
  | notFolder => (20, "Not a directory")
  | isFolder => (21, "Is a directory")
  | tooLong => (36, "File name too long")

/-- The error of opening a path. -/
def PathFault.error (fault : PathFault) (path : String) : OsError :=
  let (number, text) := fault.describe
  ⟨some number, some (text ++ ": " ++ Text.quoted path)⟩

/-! ## Paths -/

/-- The parts of a path between its slashes. -/
def pathParts (path : String) : List String := (Text.parts '/' path.toList).map String.ofList

/-- Whether a path starts at the root. -/
def isAbsolute (path : String) : Bool := path.toList.head? = some '/'

/-- A place on the disk: the names on the way from the root. -/
abbrev Place := List String

namespace Place

/-- The place after one more part of a path, without a look at the disk. Nothing and a point stay,
and two points go back. -/
def follow (place : Place) (part : String) : Place :=
  if part = "" || part = "." then place
  else if part = ".." then place.dropLast
  else place ++ [part]

/-- The place that parts of a path lead to, without a look at the disk. -/
def followAll (place : Place) (parts : List String) : Place := parts.foldl follow place

/-- The text of a place that a path names. Exactly two slashes in front of the path are kept. -/
def text (path : String) (place : Place) : String :=
  (if path.startsWith "//" && !path.startsWith "///" then "//" else "/") ++
    "/".intercalate place

end Place

/-- The length of a path, in octets, from which on it is too long. -/
def pathLimit : Nat := 4096

/-- The greatest length of a name, in octets. -/
def nameLimit : Nat := 255

/-! ## The disk -/

/-- The disk as the program sees it. -/
structure Disk where
  /-- The folder that the program runs in. -/
  folder : Place := ["tmp", "concord"]
  /-- The files that were put there, by their places. -/
  files : List (Place × ByteArray) := []

/-- The folders that every machine has. -/
def standingFolders : List Place :=
  [[], ["bin"], ["boot"], ["dev"], ["etc"], ["home"], ["lib"], ["media"], ["mnt"], ["opt"],
    ["proc"], ["root"], ["run"], ["sbin"], ["srv"], ["sys"], ["tmp"], ["usr"], ["var"],
    ["dev", "shm"], ["usr", "bin"], ["usr", "lib"], ["usr", "local"], ["usr", "sbin"],
    ["usr", "share"], ["var", "cache"], ["var", "lib"], ["var", "log"], ["var", "tmp"]]

/-- The files that every machine has: devices with nothing to read, and the list of accounts with
the first of them. -/
def standingFiles : List (Place × String) :=
  [(["dev", "null"], ""), (["dev", "stdout"], ""), (["dev", "stderr"], ""),
    (["etc", "passwd"], "root:x:0:0:root:/root:/bin/sh\n")]

namespace Disk

/-- The place that a path names, without a look at the disk. -/
def placeOf (d : Disk) (path : String) : Place :=
  Place.followAll (if isAbsolute path then [] else d.folder) (pathParts path)

/-- The file at a place. -/
def find? (d : Disk) (place : Place) : Option ByteArray :=
  match d.files.find? (·.1 = place) with
  | some file => some file.2
  | none => (standingFiles.find? (·.1 = place)).map (·.2.toUTF8)

/-- Whether a folder stands at a place: one of every machine, or one on the way to the program's
folder or to a file. -/
def isFolder (d : Disk) (place : Place) : Bool :=
  standingFolders.contains place || place.isPrefixOf d.folder ||
    d.files.any (place.isPrefixOf ·.1.dropLast)

/-- What stands at a place. -/
def entry? (d : Disk) (place : Place) : Option Entry :=
  match d.find? place with
  | some content => some (.file content)
  | none => if d.isFolder place then some .folder else none

/-- The disk with a file at the place that a path names. -/
def put (d : Disk) (path : String) (content : ByteArray) : Disk :=
  { d with files := (d.placeOf path, content) :: d.files }

/-- A disk with the given files in the folder that the program runs in. -/
def ofFiles (files : List (String × ByteArray)) : Disk :=
  files.foldl (fun d file => d.put file.1 file.2) {}

/-- A file is found where it was put. -/
theorem find_put (d : Disk) (path : String) (content : ByteArray) :
    (d.put path content).find? (d.placeOf path) = some content := by
  simp [put, find?]

/-- The place that parts of a path lead to. Every part but the last has to lead to a folder. -/
def walk (d : Disk) : Place → List String → Except PathFault Place
  | place, [] => .ok place
  | place, part :: rest =>
    match d.entry? place with
    | none => .error .missing
    | some (.file _) => .error .notFolder
    | some .folder =>
      if nameLimit < part.utf8ByteSize then .error .tooLong else d.walk (place.follow part) rest

/-- The content of the file that a path leads to, or why it leads to none. -/
def read (d : Disk) (path : String) : Except PathFault ByteArray := do
  if path = "" then throw .missing
  if pathLimit ≤ path.utf8ByteSize then throw .tooLong
  let place ← d.walk (if isAbsolute path then [] else d.folder) (pathParts path)
  match d.entry? place with
  | none => throw .missing
  | some .folder => throw .isFolder
  | some (.file content) => return content

/-- The content of the file that a path leads to. -/
def contentAt (d : Disk) (path : String) : Except OsError ByteArray :=
  (d.read path).mapError fun fault => fault.error path

/-- Whether a file at a place of the given text can be written to. It need not be there, but its
folder has to. -/
def checkWritable (d : Disk) (place : Place) (text : String) : Except PathFault Unit := do
  if pathLimit ≤ text.utf8ByteSize then throw .tooLong
  let place ← d.walk [] place
  match d.entry? place with
  | some .folder => throw .isFolder
  | _ => return ()

/-- Open the file that a path names for writing at its end. -/
def appendTo (d : Disk) (path : String) : Except OsError Unit :=
  let place := d.placeOf path
  let text := place.text path
  (d.checkWritable place text).mapError fun fault => fault.error text

end Disk

end Concord
