import Ssvc.Path
import Ssvc.Text.Utf8
import Ssvc.Value.Quoted

set_option autoImplicit false

/-! # The disk

The files and directories that a run can reach. A path is followed part by part, and the parts
before the last one must be directories. Of the directories above the working directory, and of the
root, nothing is known but that they are there. -/

namespace Ssvc

/-- What a file holds. -/
inductive Content where
  | text (s : String)
  | raw (bytes : List UInt8)
  deriving DecidableEq, Repr

/-- The ways to take in a file: as a whole, or as a stream. -/
inductive Intake where
  | whole
  | stream
  deriving DecidableEq, Repr

/-- The text of a content, with its line ends as they are. -/
def Content.decode (intake : Intake) : Content → Except Text.Utf8.Fault String
  | .text s => .ok s
  | .raw bytes =>
    match intake with
    | .whole => Text.Utf8.decode bytes
    | .stream => Text.Utf8.decodeStream bytes

/-- Something that has a place on the disk. -/
inductive Entry where
  | file (content : Content)
  | directory
  deriving DecidableEq, Repr

/-- The entries by their places, which are given by the names that lead there. -/
structure Disk where
  entries : List (List String × Entry)
  deriving Repr, Inhabited

/-- Why a file cannot be used, with the path that was given. -/
inductive DiskError where
  | missing (path : String)
  | notDirectory (path : String)
  | isDirectory (path : String)
  | occupied (path : String)
  | tooLong (path : String)
  | nullByte
  | undecodable (fault : Text.Utf8.Fault)
  deriving DecidableEq, Repr

/-- The message of an error. -/
def DiskError.message : DiskError → String
  | .missing path => "[Errno 2] No such file or directory: " ++ Text.quote path
  | .occupied path => "[Errno 17] File exists: " ++ Text.quote path
  | .notDirectory path => "[Errno 20] Not a directory: " ++ Text.quote path
  | .isDirectory path => "[Errno 21] Is a directory: " ++ Text.quote path
  | .tooLong path => "[Errno 36] File name too long: " ++ Text.quote path
  | .nullByte => "embedded null byte"
  | .undecodable fault => fault.message

namespace Disk

/-- The disk with the working directory only. -/
def empty : Disk := ⟨[]⟩

/-- Holds of the names of the root. -/
def isRoot (name : String) : Bool :=
  name = "/" || name = "//"

/-- Holds of the places that need not be put on the disk: the working directory, which has no
names, the directories above it, and the root. -/
def isGiven (place : List String) : Bool :=
  place.all fun name => name = ".." || isRoot name

/-- What is at a place. -/
def at? (disk : Disk) (place : List String) : Option Entry :=
  if isGiven place then some .directory else disk.entries.lookup place

/-- The directory above a place; both are given by their names, the last one first. -/
def parent : List String → List String
  | [] => [".."]
  | name :: rest =>
    if name = ".." then name :: name :: rest else if isRoot name then name :: rest else rest

/-- The place of a part in a directory, given by names in the same way. -/
def below (names : List String) (part : String) : List String :=
  if part = ".." then parent names else part :: names

/-- Where a path starts. -/
def start (path : Path) : List String :=
  if path.root = "" then [] else [path.root]

/-- The most bytes that the name of an entry can have. -/
def maxName : Nat := 255

/-- The number of bytes that no path as it is written can have. -/
def maxPath : Nat := 4096

/-- Where following a path ends: at a place, or nowhere because a part is missing, is no directory
or has too long a name. -/
inductive Target where
  | place (names : List String)
  | missing
  | blocked
  | tooLong
  deriving DecidableEq, Repr

/-- Follow parts from a place, given by its names, the last one first. -/
def follow (disk : Disk) (names : List String) : List String → Target
  | [] => .place names.reverse
  | part :: rest =>
    match disk.at? names.reverse with
    | none => .missing
    | some (.file _) => .blocked
    | some .directory =>
      if part.utf8ByteSize > maxName then .tooLong else follow disk (below names part) rest

/-- Where a path ends. -/
def target (disk : Disk) (path : Path) : Target :=
  if path.text.utf8ByteSize ≥ maxPath then .tooLong else follow disk (start path) path.parts

/-- The place where a path ends; messages show the path as `shown`. -/
def placeOf (disk : Disk) (path : Path) (shown : String) : Except DiskError (List String) :=
  if shown.toList.contains '\x00' then .error .nullByte
  else
    match disk.target path with
    | .place names => .ok names
    | .missing => .error (.missing shown)
    | .blocked => .error (.notDirectory shown)
    | .tooLong => .error (.tooLong shown)

/-- Whether there is something at a path, which must not have too long a name. -/
def hasPath (disk : Disk) (path : Path) : Except DiskError Bool :=
  match disk.placeOf path path.text with
  | .ok names => .ok (disk.at? names).isSome
  | .error (.tooLong shown) => .error (.tooLong shown)
  | .error _ => .ok false

/-- Holds when there is a directory at a path. -/
def hasDirectory (disk : Disk) (path : Path) : Bool :=
  match disk.target path with
  | .place names => disk.at? names = some .directory
  | _ => false

/-! ## Reading -/

/-- The content of the file at a path; messages show the path as `shown`. -/
def content (disk : Disk) (path : Path) (shown : String) : Except DiskError Content := do
  match disk.at? (← disk.placeOf path shown) with
  | some (.file content) => return content
  | some .directory => .error (.isDirectory shown)
  | none => .error (.missing shown)

/-- The text of the file at a path, with every line end as a line feed. -/
def readText (intake : Intake) (disk : Disk) (path : Path) (shown : String) :
    Except DiskError String := do
  match (← disk.content path shown).decode intake with
  | .ok s => return String.ofList (Text.unifyLineEnds s.toList)
  | .error fault => .error (.undecodable fault)

/-- Holds of the names that can only be those of directories: the last part is empty or a dot. -/
def isDirectoryName (name : String) : Bool :=
  match (Text.split '/' name).getLast? with
  | some part => part = "" || part = "."
  | none => false

/-- The text of the file with a name, which is taken as it stands: an empty name is that of nothing,
and a name that can only be that of a directory is not that of a file. -/
def readNamed (intake : Intake) (disk : Disk) (name : String) : Except DiskError String :=
  if name = "" then .error (.missing name)
  else if name.utf8ByteSize ≥ maxPath && !name.toList.contains '\x00' then .error (.tooLong name)
  else do
    let content ← disk.content (Path.read name) name
    if isDirectoryName name then .error (.notDirectory name)
    match content.decode intake with
    | .ok s => return String.ofList (Text.unifyLineEnds s.toList)
    | .error fault => .error (.undecodable fault)

/-! ## Writing -/

/-- Put an entry among others: over what is at its place, else behind all of them. -/
def putEntry (place : List String) (entry : Entry) :
    List (List String × Entry) → List (List String × Entry)
  | [] => [(place, entry)]
  | (p, e) :: rest => if p = place then (p, entry) :: rest else (p, e) :: putEntry place entry rest

/-- Put an entry at a place: over what is there, else behind all others. -/
def put (disk : Disk) (place : List String) (entry : Entry) : Disk :=
  ⟨putEntry place entry disk.entries⟩

/-- Make the directory at a path, where there must be nothing. -/
def makeDirectory (disk : Disk) (path : Path) : Except DiskError Disk := do
  let place ← disk.placeOf path path.text
  if (disk.at? place).isSome then .error (.occupied path.text)
  else return disk.put place .directory

/-- What making directories gives; those that were made stay when a later one cannot be made. -/
abbrev Made := Except DiskError Unit × Disk

/-- Make the directory at a path, which may be there already. When the path leads through something
that is missing, `whenMissing` says what comes of it. -/
def makeOr (whenMissing : DiskError → Made) (disk : Disk) (path : Path) : Made :=
  match disk.makeDirectory path with
  | .ok disk => (.ok (), disk)
  | .error (.missing shown) => whenMissing (.missing shown)
  | .error .nullByte => (.error .nullByte, disk)
  | .error error => (if disk.hasDirectory path then .ok () else .error error, disk)

/-- Make the directory at a path, after those that lead to it if they are missing. A path through a
missing directory and back does not lead anywhere before that directory is made. -/
def makeWithin : Nat → Disk → Path → Made
  | 0, disk, path => disk.makeOr (fun error => (.error error, disk)) path
  | depth + 1, disk, path =>
    disk.makeOr (fun error =>
      if path.parts.isEmpty then (.error error, disk)
      else
        match makeWithin depth disk path.parent with
        | (.error error, disk) => (.error error, disk)
        | (.ok (), disk) => disk.makeOr (fun error => (.error error, disk)) path) path

/-- Make the directory at a path and those that lead to it, as far as they are not there. -/
def makeDirectories (disk : Disk) (path : Path) : Made :=
  makeWithin path.parts.length disk path

/-- Write a text into the file at a path whose directory is there. -/
def writeText (disk : Disk) (path : Path) (s : String) : Except DiskError Disk := do
  let place ← disk.placeOf path path.text
  match disk.at? place with
  | some .directory => .error (.isDirectory path.text)
  | _ => return disk.put place (.file (.text s))

/-- The disk with a file, and the directories that lead to it. -/
def withFile (disk : Disk) (path : Path) (content : Content) : Disk :=
  let disk := (disk.makeDirectories path.parent).2
  match disk.target path with
  | .place names => disk.put names (.file content)
  | _ => disk

/-- The files with their places. -/
def files (disk : Disk) : List (List String × Content) :=
  disk.entries.filterMap fun (place, entry) =>
    match entry with
    | .file content => some (place, content)
    | .directory => none

end Disk

end Ssvc
