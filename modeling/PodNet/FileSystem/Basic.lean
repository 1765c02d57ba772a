import PodNet.Failure
import PodNet.FileSystem.Path
import PodNet.Text.Utf8

/-!
# File systems

A file system is a list of entries, each at a place of its own below the root: files with their
content and mode, directories, and links. Paths are followed name by name, through links, as an
unprivileged owner of all files would; the operations here are the few that this program needs.
Entries of a directory are listed in the order in which they stand in the list.

Whether something can be written is not for the entries alone to say: the disk may be full, read-only
or faulty. What it does is a parameter of all that writes (`Disk`). Devices, pipes and names that are
no text are left out.
-/

namespace PodNet

/-- What stands at a place of a file system. -/
inductive Entry where
  | file (content : Bytes) (mode : Nat)
  | directory
  /-- A link to a path. -/
  | link (target : String)
  deriving Repr, DecidableEq

/-- A place below the root: the names on the way to it. -/
abbrev Place := List String

/-- A file system, with the place that relative paths start from. -/
structure FileSystem where
  entries : List (Place × Entry)
  workingDirectory : Place
  deriving Repr, DecidableEq

/-- What goes wrong with a file after it was opened to be written. -/
structure Mishap where
  /-- The number of bytes that were written by then: all of them, if it is the mode that cannot be
  set. -/
  written : Nat
  fault : IoFault
  deriving Repr, DecidableEq

/-- What a disk does about writing that its entries do not decide. -/
structure Disk where
  /-- The fault of making something at a place, or of opening a file there to be written. -/
  refuses : FileSystem → Place → Option IoFault
  /-- What goes wrong with a file at a place after it was opened. -/
  spoils : FileSystem → Place → Option Mishap
  /-- The bits that the mode of a new file may have. -/
  permits : Nat

/-- A disk on which nothing goes wrong. -/
def Disk.sound : Disk where
  refuses _ _ := none
  spoils _ _ := none
  permits := 0o777

namespace FileSystem

/-! ### Places -/

/-- What stands at a place. The root is a directory. -/
def at? (fs : FileSystem) (place : Place) : Option Entry :=
  if place.isEmpty then some .directory else fs.entries.lookup place

/-- The file system with an entry at a place, instead of what stood there. -/
def put (fs : FileSystem) (place : Place) (entry : Entry) : FileSystem :=
  if fs.entries.any (·.1 == place) then
    { fs with entries := fs.entries.map fun e => if e.1 == place then (place, entry) else e }
  else { fs with entries := fs.entries ++ [(place, entry)] }

/-- The file system without what stands at a place or below it. -/
def remove (fs : FileSystem) (place : Place) : FileSystem :=
  { fs with entries := fs.entries.filter fun e => !place.isPrefixOf e.1 }

/-- The place of the parent directory; the root is its own parent. -/
def parent (place : Place) : Place :=
  place.dropLast

/-- The names in the directory at a place. -/
def namesAt (fs : FileSystem) (place : Place) : List String :=
  fs.entries.filterMap fun e =>
    if e.1.length = place.length + 1 && place.isPrefixOf e.1 then e.1.getLast? else none

/-! ### Following paths -/

/-- Where a path leads. -/
inductive Target where
  /-- An entry stands there. -/
  | entry (place : Place) (entry : Entry)
  /-- Nothing stands there, but the directory that it would be in exists. -/
  | vacant (place : Place)
  /-- A slash at the end asks for a directory, and none stands there: the fault of looking there. -/
  | noDirectory (fault : IoFault)
  deriving Repr, DecidableEq

/-- The number of links that may be followed on the way. -/
def maxLinks : Nat := 40

/-- The greatest length of a name, in bytes. -/
def maxNameLength : Nat := 255

/-- The greatest length of a path, in bytes. -/
def maxPathLength : Nat := 4095

/-- Where the target of a link starts from, given the directory of the link. -/
def linkStart (directory : Place) (target : String) : Place :=
  if Path.isAbsolute target then [] else directory

/-- Where a path leads whose last name should be that of a directory and is not, given what is left
of the path: on the way that is a fault, at the end it may be that only slashes are left. -/
def noDirectory (rest : List String) (fault : IoFault) : Except IoFault Target :=
  if rest.all (· == "") then .ok (.noDirectory fault) else .error fault

/-- Follows the parts of a path from a directory, through at most so many links. -/
def follow (fs : FileSystem) (links : Nat) (directory : Place) :
    List String → Except IoFault Target
  | [] => .ok (.entry directory .directory)
  | part :: rest =>
    if Path.isStay part then follow fs links directory rest
    else if part = ".." then follow fs links (parent directory) rest
    else if maxNameLength < part.utf8ByteSize then .error .nameTooLong
    else
      match fs.at? (directory ++ [part]) with
      | none =>
        if rest.isEmpty then .ok (.vacant (directory ++ [part])) else noDirectory rest .notFound
      | some .directory => follow fs links (directory ++ [part]) rest
      | some (.file content mode) =>
        if rest.isEmpty then .ok (.entry (directory ++ [part]) (.file content mode))
        else noDirectory rest .notADirectory
      | some (.link target) =>
        match links with
        | 0 => .error .tooManyLinks
        | links + 1 => follow fs links (linkStart directory target) (Path.parts target ++ rest)
  termination_by parts => (links, parts.length)

/-- The place that a path starts from. -/
def start (fs : FileSystem) (path : String) : Place :=
  if Path.isAbsolute path then [] else fs.workingDirectory

/-- Refuses what cannot be a path. -/
def checkPath (path : String) : Except IoFault Unit :=
  if Text.hasChar (Char.ofNat 0) path then .error .nulInPath
  else if maxPathLength < path.utf8ByteSize then .error .nameTooLong
  else if path = "" then .error .notFound
  else .ok ()

/-- Where a path leads. -/
def resolve (fs : FileSystem) (path : String) : Except IoFault Target :=
  match checkPath path with
  | .ok () => fs.follow maxLinks (fs.start path) (Path.parts path)
  | .error e => .error e

/-! ### Looking -/

/-- Does the path lead to a file? -/
def isFile (fs : FileSystem) (path : String) : Bool :=
  match fs.resolve path with
  | .ok (.entry _ (.file _ _)) => true
  | _ => false

/-- A name in the root leads to a file if a file stands there. -/
theorem isFile_root {fs : FileSystem} {path name : String}
    (hresolve : fs.resolve path = fs.follow maxLinks [] ["", name])
    (hstay : Path.isStay name = false) (hparent : name ≠ "..")
    (hshort : name.utf8ByteSize ≤ maxNameLength)
    (hlink : ∀ target, fs.at? [name] ≠ some (.link target)) :
    fs.isFile path = (fs.at? [name]).any fun entry => entry matches .file _ _ := by
  have hempty : Path.isStay "" = true := by rfl
  rw [isFile, hresolve, follow, if_pos hempty, follow, hstay, if_neg Bool.false_ne_true,
    if_neg hparent, if_neg (Nat.not_lt.mpr hshort), List.nil_append]
  rcases hentry : fs.at? [name] with _ | content | _ | target
  · rfl
  · rfl
  · rw [follow]
    rfl
  · exact absurd hentry (hlink target)

/-- Does the path lead to a directory? -/
def isDirectory (fs : FileSystem) (path : String) : Bool :=
  match fs.resolve path with
  | .ok (.entry _ .directory) => true
  | _ => false

/-- May the owner read a file of the mode? -/
def isReadable (mode : Nat) : Bool := mode.testBit 8

/-- May the owner write to a file of the mode? -/
def isWritable (mode : Nat) : Bool := mode.testBit 7

/-- May the owner run a file of the mode? -/
def isExecutable (mode : Nat) : Bool := mode.testBit 6

/-- Does the path lead to a file that may be run? -/
def mayRun (fs : FileSystem) (path : String) : Bool :=
  match fs.resolve path with
  | .ok (.entry _ (.file _ mode)) => isExecutable mode
  | _ => false

/-- The content of a file. -/
def readFile (fs : FileSystem) (path : String) : Except IoFault Bytes :=
  match fs.resolve path with
  | .ok (.entry _ (.file content mode)) =>
    if isReadable mode then .ok content else .error .permissionDenied
  | .ok (.entry _ _) => .error .isADirectory
  | .ok (.vacant _) => .error .notFound
  | .ok (.noDirectory e) => .error e
  | .error e => .error e

/-- The names in a directory. -/
def readDirectory (fs : FileSystem) (path : String) : Except IoFault (List String) :=
  match fs.resolve path with
  | .ok (.entry place .directory) => .ok (fs.namesAt place)
  | .ok (.entry _ _) => .error .notADirectory
  | .ok (.vacant _) => .error .notFound
  | .ok (.noDirectory e) => .error e
  | .error e => .error e

/-! ### Writing -/

/-- Makes a directory. Its name must be free: also a link is in the way. Slashes at the end of the
path mean nothing, but a dot there is no free name. -/
def makeDirectory (fs : FileSystem) (disk : Disk) (path : String) : Except IoFault FileSystem := do
  checkPath path
  let parts := ((Path.parts path).reverse.dropWhile (· == "")).reverse
  match parts.getLast? with
  | none => .error .fileExists
  | some name =>
    match ← fs.follow maxLinks (fs.start path) parts.dropLast with
    | .vacant _ => .error .notFound
    | .noDirectory e => .error e
    | .entry place .directory =>
      if maxNameLength < name.utf8ByteSize then .error .nameTooLong
      else if name = "." ∨ name = ".." ∨ (fs.at? (place ++ [name])).isSome then .error .fileExists
      else
        match disk.refuses fs (place ++ [name]) with
        | some e => .error e
        | none => .ok (fs.put (place ++ [name]) .directory)
    | .entry _ _ => .error .notADirectory

/-- Makes a directory unless it is there. -/
def ensureDirectory (fs : FileSystem) (disk : Disk) (path : String) : Except IoFault FileSystem :=
  match fs.makeDirectory disk path with
  | .error .fileExists => if fs.isDirectory path then .ok fs else .error .fileExists
  | r => r

/-- Makes the first of the directories. Each of the others is around the one before it, and is made
where it is missing. What was made stays, also if the first cannot be made in the end. -/
def ensureAmong (fs : FileSystem) (disk : Disk) : List String → Except IoFault Unit × FileSystem
  | [] => (.ok (), fs)
  | path :: around =>
    match fs.ensureDirectory disk path with
    | .ok made => (.ok (), made)
    | .error .notFound =>
      match ensureAmong fs disk around with
      | (.ok (), made) =>
        match made.ensureDirectory disk path with
        | .ok last => (.ok (), last)
        | .error e => (.error e, made)
      | r => r
    | .error e => (.error e, fs)

/-- Makes a directory and all that are missing on the way to it. An empty path asks for nothing. -/
def ensureDirectories (fs : FileSystem) (disk : Disk) (path : String) :
    Except IoFault Unit × FileSystem :=
  fs.ensureAmong disk (Path.ancestors path)

/-- The file system with a directory, if all that are missing on the way to it can be made on a sound
disk. -/
def makeDirectories (fs : FileSystem) (path : String) : Except IoFault FileSystem :=
  (fs.ensureDirectories .sound path).1.map fun _ => (fs.ensureDirectories .sound path).2

/-- The mode of the files that are written: readable by all, writable by the owner. -/
def writtenMode : Nat := 0o644

/-- The place that a file with the path is written to. A path that ends in a slash stands for a
directory. -/
def writePlace (fs : FileSystem) (path : String) : Except IoFault Place :=
  match checkPath path with
  | .error e => .error e
  | .ok () =>
    if path.toList.getLast? = some '/' then
      match fs.follow maxLinks (fs.start path) ((Path.parts path).filter (· != "")).dropLast with
      | .ok (.entry _ .directory) => .error .isADirectory
      | .ok (.entry _ _) => .error .notADirectory
      | .ok (.vacant _) => .error .notFound
      | .ok (.noDirectory e) => .error e
      | .error e => .error e
    else
      match fs.follow maxLinks (fs.start path) (Path.parts path) with
      | .ok (.entry place (.file _ mode)) =>
        if isWritable mode then .ok place else .error .permissionDenied
      | .ok (.entry _ _) => .error .isADirectory
      | .ok (.vacant place) => .ok place
      -- only a link can end in a slash here
      | .ok (.noDirectory _) => .error .isADirectory
      | .error e => .error e

/-- The mode of a file that was opened to be written: a file that was there keeps its own, and a new
one has what it may have of the mode that it is to have. -/
def openedMode (fs : FileSystem) (disk : Disk) (place : Place) : Nat :=
  match fs.at? place with
  | some (.file _ mode) => mode
  | _ => Nat.land writtenMode disk.permits

/-- Writes a file, replacing its content and its mode if it exists already. Opening it empties it, and
the mode is set after the content was written, so a mishap leaves a beginning of the content. -/
def writeFile (fs : FileSystem) (disk : Disk) (path : String) (content : Bytes) :
    Except IoFault Unit × FileSystem :=
  match fs.writePlace path with
  | .error e => (.error e, fs)
  | .ok place =>
    match disk.refuses fs place with
    | some e => (.error e, fs)
    | none =>
      match disk.spoils fs place with
      | some mishap =>
        (.error mishap.fault,
          fs.put place (.file (content.take mishap.written) (fs.openedMode disk place)))
      | none => (.ok (), fs.put place (.file content writtenMode))

end FileSystem

end PodNet
