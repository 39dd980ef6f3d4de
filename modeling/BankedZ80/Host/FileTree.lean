import BankedZ80.Host.Path
import BankedZ80.Host.Program

/-!
# A file tree as a value

Files and directories by the components of their paths, and a host made of such a tree:
`FileTree.host` answers the requests of a `HostProgram` on it. The tree is a whole file system with a
working directory, or what is below the working directory. A file that gets too long for the file
system is broken off, and writing it fails.

Of what is outside a tree that begins at the working directory, a path can reach the directories
above, the top directories of the file system, and the null device, which reads as empty and keeps
nothing. Nothing else is there.
-/

namespace BankedZ80

/-- A path as its components, none of them empty, `.` or `..`. -/
abbrev Place := List (List Char)

/-- Files with their contents, and directories that may be empty. -/
structure FileTree where
  files : List (Place × ByteArray) := []
  directories : List Place := []
  /-- The place of the working directory in a tree that is a whole file system; none if the tree begins
  at the working directory. -/
  workingDirectory : Option Place := none
  /-- The most bytes that a file can have, if there is a bound. -/
  maxFileSize : Option Nat := none

namespace FileTree

/-- The contents of the file at a place. -/
def file? (t : FileTree) (p : Place) : Option ByteArray := t.files.lookup p

/-- Is there a directory at a place? -/
def isDirectory (t : FileTree) (p : Place) : Bool :=
  p = [] || t.directories.any (fun d => p.isPrefixOf d) ||
    t.files.any fun f => p.isPrefixOf f.1 && p.length < f.1.length

/-- Where a path can lead. -/
inductive Spot where
  /-- A place in the tree. -/
  | inside (place : Place)
  /-- A directory above the tree. -/
  | above
  /-- A place as seen from the top of the file system. -/
  | system (place : Place)
deriving DecidableEq

/-- Names of the directories at the top of the file system. -/
def topDirectories : List String :=
  ["bin", "boot", "dev", "etc", "home", "lib", "media", "mnt", "opt", "proc", "run", "sbin", "srv",
    "sys", "tmp", "usr", "var"]

/-- The place of the null device. -/
def nullDevice : Place := ["dev".toList, "null".toList]

/-- Is there a directory at a spot? -/
def directoryAt (t : FileTree) : Spot → Bool
  | .inside p => t.isDirectory p
  | .above => true
  | .system [] => true
  | .system [name] => topDirectories.contains (String.ofList name)
  | .system _ => false

/-- The contents of what is at a spot and no directory. -/
def contentsAt? (t : FileTree) : Spot → Option ByteArray
  | .inside p => t.file? p
  | .above => none
  | .system p => if p = nullDevice then some .empty else none

/-- The directory above a spot. Above the top of a file system there is the top itself. -/
def parent (t : FileTree) : Spot → Spot
  | .inside [] => if t.workingDirectory.isSome then .inside [] else .above
  | .inside p => .inside p.dropLast
  | .above => .above
  | .system p => .system p.dropLast

/-- The spot of a name in a directory, unless that directory is above the tree. -/
def Spot.child? (name : List Char) : Spot → Option Spot
  | .inside p => some (.inside (p ++ [name]))
  | .above => none
  | .system p => some (.system (p ++ [name]))

/-- Follow components from a spot; there must be a directory at every spot on the way. -/
def follow (t : FileTree) (p : Spot) : List (List Char) → Except FileFault Spot
  | [] => .ok p
  | c :: rest =>
    if t.directoryAt p then
      if Path.isHere c then t.follow p rest
      else if c = ['.', '.'] then t.follow (t.parent p) rest
      else if Path.maxNameBytes < (String.ofList c).utf8ByteSize then .error .failed
      else match p.child? c with
        | some q => t.follow q rest
        | none => .error .missing
    else if (t.contentsAt? p).isSome then .error .failed
    else .error .missing

/-- Where a path begins: at the top of the file system, or in the working directory. -/
def origin (t : FileTree) (fromTop : Bool) : Spot :=
  match t.workingDirectory with
  | none => if fromTop then .system [] else .inside []
  | some p => .inside (if fromTop then [] else p)

/-- The spot that a path leads to, whether or not there is anything. -/
def locate (t : FileTree) (path : String) : Except FileFault Spot :=
  if path = "" then .error .missing
  else if !Path.isWellFormed path then .error .failed
  else t.follow (t.origin (path.startsWith "/")) (Path.splitSlash path.toList)

/-- The contents of the file at a path. -/
def read (t : FileTree) (path : String) : Except FileFault ByteArray := do
  let p ← t.locate path
  match t.contentsAt? p with
  | some contents => return contents
  | none => throw (if t.directoryAt p then .directory else .missing)

/-- Put a file at a place, in place of any other. -/
def put (t : FileTree) (p : Place) (contents : ByteArray) : FileTree :=
  if (t.file? p).isSome then
    { t with files := t.files.map fun f => if f.1 = p then (p, contents) else f }
  else { t with files := t.files ++ [(p, contents)] }

/-- May a file have so many bytes? -/
def hasRoomFor (t : FileTree) (bytes : Nat) : Bool := t.maxFileSize.all fun most => bytes ≤ most

/-- What a file gets of what is written to it. -/
def portion (t : FileTree) (contents : ByteArray) : ByteArray :=
  match t.maxFileSize with
  | none => contents
  | some most => contents.extract 0 most

/-- Write a file at a path, if its directory is in the tree and no directory in its place. The file is
made or emptied first, so one that gets too long is left with a part of its contents. -/
def write (t : FileTree) (path : String) (contents : ByteArray) : Bool × FileTree :=
  match t.locate path with
  | .ok (.inside p) =>
    if t.isDirectory p then (false, t)
    else (t.hasRoomFor contents.size, t.put p (t.portion contents))
  | .ok (.system p) => (p = nullDevice, t)
  | _ => (false, t)

/-- Does a path lead to a place in the tree? -/
def leadsTo (t : FileTree) (path : String) (p : Place) : Bool :=
  match t.locate path with
  | .ok (.inside q) => q = p
  | _ => false

/-- The names of the files directly inside the directory at a path. A file counts if its own path leads
to it; that of a file deep in the tree may be too long. -/
def list (t : FileTree) (path : String) : Option (List String) :=
  match t.locate path with
  | .ok (.inside p) =>
    if t.isDirectory p then
      some (t.files.filterMap fun f =>
        match f.1.getLast? with
        | some name =>
          if f.1 = p ++ [name] && t.leadsTo (Path.join path (String.ofList name)) f.1 then
            some (String.ofList name)
          else none
        | none => none)
    else none
  | .ok spot => if t.directoryAt spot then some [] else none
  | .error _ => none

/-- A file tree with what has been written to the standard output, and a clock. -/
structure Computer where
  tree : FileTree
  output : ByteArray := .empty
  /-- The time at every instruction of the batches to come, each with `readings` of its own. -/
  now : Clock := Clock.still 0
  /-- How many batches have been told the time. -/
  batches : Nat := 0

/-- More readings than a batch has instructions: 2^32. -/
def readings : Nat := 0x100000000

/-- The host that a file tree makes. -/
def host : HostProgram.Host Computer where
  readFile path s := s.tree.read path
  writeFile path contents s :=
    let (written, tree) := s.tree.write path contents
    (written, { s with tree })
  listFiles directory s := s.tree.list directory
  emit bytes s := { s with output := s.output ++ bytes }
  clock s := (s.now.after (s.batches * readings), { s with batches := s.batches + 1 })

end FileTree

end BankedZ80
