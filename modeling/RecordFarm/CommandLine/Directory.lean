import RecordFarm.CommandLine.Host
/-!
# A directory of files

A host that is nothing but a directory with some files in it. Of the machine around it there are
the directories on the way from the root, which are empty otherwise, and the null device.

A path is walked part by part, and each part but the last has to be a directory. The walk is the
same for a file that is opened and for one that is created; they differ in what may stand at the
end.
-/

namespace RecordFarm

/-- The files of a directory, by name. -/
structure Directory where
  files : List (String × Bytes)
  deriving DecidableEq, Repr

namespace Directory

inductive Obstacle where
  /-- There is nothing of that name. -/
  | missing
  /-- The path goes on where a file is. -/
  | notDirectory
  /-- A directory is where a file is wanted. -/
  | isDirectory
  /-- The path, or a name in it, is longer than any can be. -/
  | tooLong
  deriving DecidableEq, Repr

def Obstacle.reason : Obstacle → String
  | missing => "No such file or directory (os error 2)"
  | notDirectory => "Not a directory (os error 20)"
  | isDirectory => "Is a directory (os error 21)"
  | tooLong => "File name too long (os error 36)"

def notFound : String := Obstacle.missing.reason

inductive Place where
  | root
  /-- The directory of the devices. -/
  | devices
  /-- What a program finds empty and what swallows all that is written to it. -/
  | nullDevice
  /-- The directory that this one is in. -/
  | above
  /-- This directory. -/
  | here
  | file (name : String) (contents : Bytes)
  deriving DecidableEq, Repr

/-- The directory that a directory is in; the root is in itself. Nothing for a file. -/
def Place.parent? : Place → Option Place
  | root => some root
  | devices => some root
  | above => some root
  | here => some above
  | nullDevice => none
  | file .. => none

def Place.isDirectory (place : Place) : Bool := place.parent?.isSome

/-- No name has more bytes. -/
def longestName : Nat := 255

/-- No path has more bytes. -/
def longestPath : Nat := 4095

def look (d : Directory) (place : Place) (name : String) : Option Place :=
  match place with
  | .root => if name = "tmp" then some .above else if name = "dev" then some .devices else none
  | .devices => if name = "null" then some .nullDevice else none
  | .here => (d.files.lookup name).map (.file name)
  | _ => none

/-- Goes on by one part of a path. An empty part leads nowhere else, like a dot. -/
def enter (d : Directory) (place : Place) (part : String) : Except Obstacle Place :=
  match place.parent? with
  | none => .error .notDirectory
  | some parent =>
    if part = "" ∨ part = "." then .ok place
    else if part = ".." then .ok parent
    else if longestName < part.utf8ByteSize then .error .tooLong
    else
      match d.look place part with
      | some place => .ok place
      | none => .error .missing

def start (path : String) : Except Obstacle Place :=
  if path.isEmpty then .error .missing
  else if longestPath < path.utf8ByteSize then .error .tooLong
  else .ok (if path.startsWith "/" then .root else .here)

def find (d : Directory) (path : String) : Except Obstacle Place := do
  let place ← start path
  (path.splitOn "/").foldlM d.enter place

/-- The file that is emptied, or comes to be, when a file is created: its name if it is in this
directory. A path that ends like that of a directory is never one of a new file. -/
def findNew (d : Directory) (path : String) : Except Obstacle (Option String) := do
  let place ← start path
  match (path.splitOn "/").reverse.dropWhile (· = "") with
  | [] => throw .isDirectory
  | last :: before =>
    let place ← before.reverse.foldlM d.enter place
    if !place.isDirectory then throw .notDirectory
    if path.endsWith "/" || last = "." || last = ".." then throw .isDirectory
    match d.enter place last with
    | .error .missing => return if place = .here then some last else none
    | .error obstacle => throw obstacle
    | .ok (.file name _) => return some name
    | .ok other => if other.isDirectory then throw .isDirectory else return none

/-- Fills a file, which may be new. -/
def put (d : Directory) (name : String) (contents : Bytes) : Directory :=
  { files := (name, contents) :: d.files.filter fun file => file.1 ≠ name }

instance : Host (StateM Directory) where
  refusal? path := do
    match (← get).find path with
    | .ok _ => return none
    | .error obstacle => return some obstacle.reason
  create path := do
    let d ← get
    match d.findNew path with
    | .ok (some name) => set (d.put name []); return none
    | .ok none => return none
    | .error obstacle => return some obstacle.reason
  read path := do
    match (← get).find path with
    | .ok (.file _ contents) => return .ofBytes contents
    | .ok place =>
      return if place.isDirectory then [.failure Obstacle.isDirectory.reason] else []
    | .error _ => return []
  write path contents := do
    let d ← get
    match d.find path with
    | .ok (.file name _) => set (d.put name contents)
    | _ => return

end Directory

end RecordFarm
