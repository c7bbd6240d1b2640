import MailTriage.Host
import MailTriage.Keyed

/-!
# Files

The files that the program can see, as a tree under its working directory. A path is taken apart at
its slashes; single dots say nothing, and double dots lead back up. A path that starts with a slash
leads out of the tree.
-/

namespace MailTriage

/-- A path without its slashes: the names that lead from the working directory to a place. -/
abbrev Place := List String

namespace Place

/-- One more step on a way that is written backwards. -/
def step (back : Place) (name : String) : Place :=
  if name.isEmpty || name = "." then back
  else if name = ".." then
    match back with
    | [] => [".."]
    | last :: rest => if last = ".." then ".." :: back else rest
  else name :: back

def ofPath (path : String) : Place :=
  let place := ((path.splitOn "/").foldl step []).reverse
  if path.startsWith "/" then "/" :: place else place

def path (place : Place) : String := "/".intercalate place

/-- The places on the way to a place, from the working directory on, without the place itself. -/
def above (place : Place) : List Place :=
  (List.range place.length).map fun n => place.take n

end Place

/-- Files with their texts, and directories. -/
structure Disk where
  files : List (Place × String) := []
  directories : List Place := []

namespace Disk

/-- Why a path cannot be used. -/
inductive Obstacle
  | absent
  | occupied
  | notDirectory
  | directory
  deriving DecidableEq

def Obstacle.trouble (obstacle : Obstacle) (path : String) : Trouble :=
  let (kind, number, reason) := match obstacle with
    | absent => ("FileNotFoundError", "2", "No such file or directory")
    | occupied => ("FileExistsError", "17", "File exists")
    | notDirectory => ("NotADirectoryError", "20", "Not a directory")
    | directory => ("IsADirectoryError", "21", "Is a directory")
  { kind := kind, message := "[Errno " ++ number ++ "] " ++ reason ++ ": " ++ Text.quoted path }

def file? (place : Place) (disk : Disk) : Option String := disk.files.lookup place

def isFile (place : Place) (disk : Disk) : Bool := (disk.file? place).isSome

def isDirectory (place : Place) (disk : Disk) : Bool :=
  place.isEmpty || disk.directories.contains place

def addAbove (place : Place) (disk : Disk) : Disk :=
  { disk with directories := disk.directories ++ place.above.filter fun p => !disk.isDirectory p }

def put (place : Place) (text : String) (disk : Disk) : Disk :=
  if disk.isFile place then
    { disk with files := disk.files.map fun entry => if entry.1 = place then (place, text)
                  else entry }
  else { disk with files := disk.files ++ [(place, text)] }

/-- A disk with given files, in directories made for them. -/
def ofFiles (files : Keyed String) : Disk :=
  files.foldl (fun disk (path, text) =>
    let place := Place.ofPath path
    (disk.addAbove place).put place text) {}

def blocked? (place : Place) (disk : Disk) : Option Obstacle :=
  match place.above.find? fun p => !disk.isDirectory p with
  | none => none
  | some p => some (if disk.isFile p then .notDirectory else .absent)

def has (path : String) (disk : Disk) : Bool :=
  let place := Place.ofPath path
  !path.isEmpty && (disk.blocked? place).isNone &&
    (disk.isDirectory place || (disk.isFile place && !path.endsWith "/"))

/-- A text with every end of a line written as one line feed. -/
def plainLines : List Char → List Char
  | [] => []
  | '\r' :: '\n' :: rest => '\n' :: plainLines rest
  | '\r' :: rest => '\n' :: plainLines rest
  | c :: rest => c :: plainLines rest

def unreadable? (path : String) (disk : Disk) : Option Obstacle :=
  let place := Place.ofPath path
  if path.isEmpty then some .absent
  else
    match disk.blocked? place with
    | some obstacle => some obstacle
    | none =>
      if disk.isDirectory place then some .directory
      else if !disk.isFile place then some .absent
      else if path.endsWith "/" then some .notDirectory
      else none

def read (path : String) (disk : Disk) : Except Trouble String :=
  match disk.unreadable? path with
  | some obstacle => .error (obstacle.trouble path)
  | none =>
    .ok (String.ofList (plainLines ((disk.file? (Place.ofPath path)).getD "").toList))

/-- What stands in the way of writing under a path. -/
def unwritable? (path : String) (disk : Disk) : Option Obstacle :=
  let place := Place.ofPath path
  if path.isEmpty then some .absent
  else
    match disk.blocked? place with
    | some obstacle => some obstacle
    | none =>
      if disk.isDirectory place then some .directory
      else if path.endsWith "/" then
        some (if disk.isFile place then .notDirectory else .directory)
      else none

def write (path text : String) (disk : Disk) : Except Trouble Disk :=
  match disk.unwritable? path with
  | some obstacle => .error (obstacle.trouble path)
  | none => .ok (disk.put (Place.ofPath path) text)

/-- Makes the directory at a place, and those on the way to it, unless they are there. -/
def makeDirectories (place : Place) (disk : Disk) : Except Trouble Disk :=
  let way := place.above ++ [place]
  match way.find? fun p => disk.isFile p with
  | some p =>
    .error (if p = place then Obstacle.trouble .occupied place.path
      else Obstacle.trouble .notDirectory (Place.path (place.take (p.length + 1))))
  | none =>
    .ok { disk with directories := disk.directories ++ way.filter fun p => !disk.isDirectory p }

end Disk

end MailTriage
