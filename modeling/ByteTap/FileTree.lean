import ByteTap.Bytes
import ByteTap.Io
import ByteTap.Text.Parts

/-!
# Trees of files

Files and folders, and the paths that lead to them.  A path is followed step by step from the root
or from the working folder: every step but the last has to be a folder, and `..` leads back to where
the step before came from.  A path and each of its steps can only be so long.

There is nothing but files and folders.  A link counts as what it leads to, and one that leads
nowhere as nothing, as long as no `..` follows it: that would lead on from the target's own place.
Devices, pipes and sockets have no form of their own: where a configuration is looked for, one
counts as an empty folder, which is there as well without being a file, and where an endpoint is
opened, as the file of the bytes that it gives before it ends.
-/

namespace ByteTap

/-- A file or a folder. -/
inductive FileTree where
  | file (content : Bytes)
  | folder (entries : List (String × FileTree))

/-- A path as it is followed. -/
structure Path where
  /-- It starts at the root, and not at the working folder. -/
  absolute : Bool
  /-- The steps, without those that lead nowhere. -/
  steps : List String
  /-- It ends in a slash, so that only a folder can be meant. -/
  folderOnly : Bool
  /-- The path as it was written. -/
  written : String
  deriving DecidableEq, Repr

namespace Path

/-- A path as it is written. -/
def parse (written : String) : Path :=
  let parts := Text.parts '/' written
  { absolute := written.toList.head? == some '/'
    steps := parts.filter fun part => part ≠ "" && part ≠ "."
    folderOnly := parts.getLast? == some "" || parts.getLast? == some "."
    written }

/-- The steps from a folder to a place, both given by the steps from the root. -/
def relative : List String → List String → List String
  | folder :: base, step :: place =>
      if folder = step then relative base place
      else List.replicate (base.length + 1) ".." ++ step :: place
  | base, place => List.replicate base.length ".." ++ place

end Path

namespace FileTree

/-- The system's failure for a path that leads nowhere. -/
def missing : IoFailure := ⟨.notFound, "No such file or directory (os error 2)"⟩

/-- The system's failure for a step out of a file. -/
def notFolder : IoFailure := ⟨.notAFolder, "Not a directory (os error 20)"⟩

/-- The system's failure for reading a folder. -/
def isFolder : IoFailure := ⟨.isAFolder, "Is a directory (os error 21)"⟩

/-- The system's failure for a name or a path that is too long. -/
def nameTooLong : IoFailure := ⟨.invalidFilename, "File name too long (os error 36)"⟩

/-- The most bytes in the name of a file or folder. -/
def longestName : Nat := 255

/-- The most bytes in a path. -/
def longestPath : Nat := 4095

/-- Follows steps from a place; `above` holds the folders it lies in, the nearest first. -/
def follow : List String → List FileTree → FileTree → Except IoFailure FileTree
  | [], _, place => .ok place
  | _ :: _, _, file _ => .error notFolder
  | step :: steps, above, folder entries =>
      if step = ".." then
        match above with
        | parent :: above => follow steps above parent
        | [] => follow steps [] (folder entries)
      else if longestName < step.utf8ByteSize then .error nameTooLong
      else match entries.lookup step with
        | some place => follow steps (folder entries :: above) place
        | none => .error missing

/-- The place at a path, seen from a working folder given by its steps from the root. -/
def resolve (root : FileTree) (cwd : List String) (path : Path) : Except IoFailure FileTree :=
  if path.written = "" then .error missing
  else if longestPath < path.written.utf8ByteSize then .error nameTooLong
  else do
    let place ← follow (if path.absolute then path.steps else cwd ++ path.steps) [] root
    match place with
    | file _ => if path.folderOnly then .error notFolder else .ok place
    | folder _ => .ok place

/-- There is something at a path. -/
def reaches (root : FileTree) (cwd : List String) (path : Path) : Bool :=
  (root.resolve cwd path).isOk

/-- The content of the file at a path. -/
def content? (root : FileTree) (cwd : List String) (path : Path) : Option Bytes :=
  match root.resolve cwd path with
  | .ok (file content) => some content
  | _ => none

/-! ## Looking upwards -/

/-- A file that was found. -/
structure Found where
  /-- The folder in which it was looked for, by its steps from the root. -/
  base : List String
  content : Bytes

/-- Looks for a file in the working folder, given by its steps from the root in reverse, and then in
each folder above it. -/
def searchUp (root : FileTree) (path : Path) : List String → Option Found
  | [] => (root.content? [] path).map (⟨[], ·⟩)
  | step :: above =>
      match root.content? (step :: above).reverse path with
      | some content => some ⟨(step :: above).reverse, content⟩
      | none => searchUp root path above

/-- Looks for a file by a path: a relative one also in the folders above the working folder. -/
def search (root : FileTree) (cwd : List String) (path : Path) : Option Found :=
  if path.absolute then (root.content? cwd path).map (⟨[], ·⟩)
  else root.searchUp path cwd.reverse

/-- The name under which a found file is shown: from the working folder if that is shorter. -/
def Found.name (found : Found) (cwd : List String) (path : Path) : String :=
  let place := found.base ++ path.steps
  let steps := Path.relative cwd place
  if steps.length < place.length + 1 then "/".intercalate steps
  else if path.absolute then path.written
  else "/" ++ "/".intercalate (found.base ++ [path.written])

/-! ## Building -/

mutual

/-- Puts a tree at the end of some steps; folders on the way that are missing are made, and files
on the way make way. -/
def put (place : FileTree) (steps : List String) (tree : FileTree) : FileTree :=
  match steps with
  | [] => tree
  | step :: steps =>
      match place with
      | folder entries => folder (putEntry step steps tree entries)
      | file _ => folder (putEntry step steps tree [])

/-- Puts a tree into the entries of a folder. -/
def putEntry (step : String) (steps : List String) (tree : FileTree) :
    List (String × FileTree) → List (String × FileTree)
  | [] => [(step, put (folder []) steps tree)]
  | (name, place) :: rest =>
      if name = step then (name, put place steps tree) :: rest
      else (name, place) :: putEntry step steps tree rest

end

/-- A folder with nothing in it. -/
def empty : FileTree := folder []

/-- Makes a folder at the end of some steps, if there is none. -/
def makeFolder (place : FileTree) (steps : List String) : FileTree :=
  match follow steps [] place with
  | .ok (folder _) => place
  | _ => put place steps empty

end FileTree

end ByteTap
