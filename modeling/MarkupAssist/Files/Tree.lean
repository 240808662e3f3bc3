import MarkupAssist.Files.Access

/-!
# File trees

A directory with everything below it, as a value, and a system of files, which is such a tree and a
place in it. Paths are resolved step by step, each step out of a directory.

- `FileTree`           : files and directories
- `FileTree.ofFiles`   : the tree that holds some files
- `FileSystem.resolve` : what a path leads to
- `FileSystem.access`  : the answers a system gives
-/

namespace MarkupAssist
namespace Files

inductive FileTree
  | file (contents : ByteArray)
  | directory (entries : List (String × FileTree))

namespace FileTree

def empty : FileTree :=
  .directory []

/-! ## Building -/

def splitPath : List Char → List (List Char)
  | [] => [[]]
  | c :: rest =>
      if c = '/' then [] :: splitPath rest
      else match splitPath rest with
        | [] => [[c]]
        | part :: parts => (c :: part) :: parts

/-- The names on a path, one below the other. -/
def steps (path : String) : List String :=
  (splitPath path.toList).map String.ofList

def putEntry (name : String) (tree : FileTree) :
    List (String × FileTree) → List (String × FileTree)
  | [] => [(name, tree)]
  | (n, t) :: rest => if n = name then (name, tree) :: rest else (n, t) :: putEntry name tree rest

/-- Change what lies at the end of a path; the directories on the way are made. -/
def update (change : FileTree → FileTree) : List String → FileTree → FileTree
  | [], tree => change tree
  | name :: rest, .directory entries =>
      if name = "" || name = "." then update change rest (.directory entries)
      else
        let entry := update change rest ((entries.lookup name).getD empty)
        .directory (putEntry name entry entries)
  | name :: rest, .file _ => .directory [(name, update change rest empty)]

/-- A directory that is there already keeps what is in it. -/
def orEmpty : FileTree → FileTree
  | .directory entries => .directory entries
  | .file _ => empty

/-- Files with their contents, and directories without. -/
def ofFiles (files : List (String × Option ByteArray)) : FileTree :=
  files.foldl
    (fun tree (path, contents) =>
      update (match contents with
        | some bytes => fun _ => .file bytes
        | none => orEmpty) (steps path) tree)
    empty

/-! ## Paths -/

/-- The most bytes of a name on a path. -/
def longestName : Nat := 255

/-- The most bytes of a path. -/
def longestPath : Nat := 4095

/-- Follow a path from a directory below others, innermost first. What is above the outermost one
is that one itself. -/
def follow : (above : List FileTree) → (here : FileTree) → List String → Except FileFault FileTree
  | _, here, [] => .ok here
  | _, .file _, _ :: _ => .error .notADirectory
  | above, .directory entries, name :: rest =>
      if name = "" || name = "." then follow above (.directory entries) rest
      else if name = ".." then
        follow (above.drop 1) (above.head?.getD (.directory entries)) rest
      else if longestName < name.utf8ByteSize then .error .nameTooLong
      else match entries.lookup name with
        | some tree => follow (.directory entries :: above) tree rest
        | none => .error .notFound

end FileTree

/-! ## Systems -/

/-- All files there are, and the directory somebody works in. -/
structure FileSystem where
  root : FileTree
  /-- The names on the way from the root. -/
  workingDirectory : List String

namespace FileSystem

open FileTree (follow longestPath steps)

variable (system : FileSystem)

/-- A path that begins with a slash leads from the root, any other one from the directory that is
worked in. -/
def resolve (path : String) : Except FileFault FileTree :=
  if path.toList.contains '\x00' then .error .nulInPath
  else if longestPath < path.utf8ByteSize then .error .nameTooLong
  else match path.toList with
    | [] => .error .notFound
    | '/' :: _ => follow [] system.root (steps path)
    | _ => follow [] system.root (system.workingDirectory ++ steps path)

/-! ## Answers -/

def readText (path : String) : Except FileFault String :=
  match system.resolve path with
  | .ok (.file contents) =>
      match String.fromUTF8? contents with
      | some text => .ok text
      | none => .error .notUtf8
  | .ok (.directory _) => .error .isADirectory
  | .error fault => .error fault

def isDirectory (path : String) : Bool :=
  match system.resolve path with
  | .ok (.directory _) => true
  | _ => false

def isThere (path : String) : Bool :=
  (system.resolve path).toBool

def access : FileAccess Id where
  readText := system.readText
  isDirectory := system.isDirectory
  isThere := system.isThere

end FileSystem

/-- The system in which there is nothing but this tree, which is worked in. -/
def FileTree.system (tree : FileTree) : FileSystem where
  root := .directory [("work", tree)]
  workingDirectory := ["work"]

def FileTree.access (tree : FileTree) : FileAccess Id :=
  tree.system.access

end Files
end MarkupAssist
