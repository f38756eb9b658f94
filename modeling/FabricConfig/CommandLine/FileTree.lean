import FabricConfig.FileError
import Std.Data.ExtTreeMap
/-!
# File trees

What a run needs of files, and a tree of files that provides it. A path is a sequence of names
between slashes, taken from the root of the tree if it starts with a slash and from the working
directory otherwise.
-/

namespace FabricConfig

/-- What a run needs of files. -/
structure FileAccess (m : Type → Type) where
  /-- Whether there is a file, not a directory, at a path. -/
  isFile : String → m Bool
  /-- Whether there is a directory at a path. -/
  isDirectory : String → m Bool
  /-- Reads the text of a file. -/
  read : String → m (Except FileError String)
  /-- Makes a text the content of a file, which is created if there is none. -/
  write : String → String → m (Except FileError Unit)

/-- What a path may lead to. -/
inductive FileNode where
  /-- A file, with its content if that is a text in UTF-8. -/
  | file (content : Option String)
  | directory
deriving DecidableEq

/-- A tree of files and directories, by the names on the way from the root. -/
structure FileTree where
  nodes : Std.ExtTreeMap (List String) FileNode := ∅
  /-- The names on the way to the working directory. -/
  workingDirectory : List String := []
deriving DecidableEq

namespace FileTree

/-- What names lead to. -/
def node? (tree : FileTree) (names : List String) : Option FileNode :=
  if names = [] then some .directory else tree.nodes[names]?

/-- Puts a directory where names lead, unless there is something. -/
def makeDirectory (tree : FileTree) (names : List String) : FileTree :=
  { tree with nodes := tree.nodes.insertIfNew names .directory }

/-- Puts a directory, and those on the way to it, where names lead. -/
def makeDirectories (tree : FileTree) (names : List String) : FileTree :=
  ((List.range (names.length + 1)).map names.take).foldl makeDirectory tree

/-- Puts a file where names lead, and directories on the way. -/
def addFile (tree : FileTree) (names : List String) (content : Option String) : FileTree :=
  let tree := tree.makeDirectories names.dropLast
  { tree with nodes := tree.nodes.insert names (.file content) }

/-! ### Paths -/

/-- The greatest length of a name, in bytes. -/
def maxNameLength : Nat := 255

/-- The greatest length of a path, in bytes. -/
def maxPathLength : Nat := 4095

/-- Follows the names of a path, from the place reached. Everything before the last name must be a
directory; the last name itself may lead to nothing. The root is its own parent. -/
def follow (tree : FileTree) (reached : List String) :
    List String → Except FileError (List String)
  | [] => .ok reached
  | name :: rest =>
    match tree.node? reached with
    | none => .error .notFound
    | some (.file _) => .error .notADirectory
    | some .directory =>
      if name = "" ∨ name = "." then tree.follow reached rest
      else if name = ".." then tree.follow reached.dropLast rest
      else if maxNameLength < name.utf8ByteSize then .error .nameTooLong
      else tree.follow (reached ++ [name]) rest

/-- The names between the slashes of a path. -/
def pathNames (path : String) : List String := (path.toList.splitOn '/').map String.ofList

/-- Whether a path has a form that can be followed. -/
def checkPath (path : String) : Except FileError Unit :=
  if path.toList.contains '\x00' then .error .nulInPath
  else if path = "" then .error .notFound
  else if maxPathLength < path.utf8ByteSize then .error .nameTooLong
  else .ok ()

/-- Where a path starts. -/
def origin (tree : FileTree) (path : String) : List String :=
  if path.toList.head? = some '/' then [] else tree.workingDirectory

/-- The names that a path stands for. -/
def locate (tree : FileTree) (path : String) : Except FileError (List String) := do
  checkPath path
  tree.follow (tree.origin path) (pathNames path)

/-- What a path leads to. -/
def lookup? (tree : FileTree) (path : String) : Option FileNode :=
  match tree.locate path with
  | .ok names => tree.node? names
  | .error _ => none

/-- Reads the text of a file. -/
def read (tree : FileTree) (path : String) : Except FileError String :=
  match tree.locate path with
  | .error error => .error error
  | .ok names =>
    match tree.node? names with
    | none => .error .notFound
    | some .directory => .error .isADirectory
    | some (.file none) => .error .notText
    | some (.file (some text)) => .ok text

/-- Where a path leads when a file is to be written there. The directory around it must be there. A
path that ends in a slash or a dot name stands for a directory, whatever is there. -/
def locateTarget (tree : FileTree) (path : String) : Except FileError (List String) := do
  checkPath path
  let names := (pathNames path).filter (· ≠ "")
  let around ← tree.follow (tree.origin path) (names.dropLast ++ ["."])
  let name := names.getLastD "."
  if path.toList.getLast? = some '/' ∨ name = "." ∨ name = ".." then .error .isADirectory
  else if maxNameLength < name.utf8ByteSize then .error .nameTooLong
  else if tree.node? (around ++ [name]) = some .directory then .error .isADirectory
  else .ok (around ++ [name])

/-- Makes a text the content of a file; without success, the tree stays as it is. -/
def write (tree : FileTree) (path text : String) : Except FileError Unit × FileTree :=
  match tree.locateTarget path with
  | .error error => (.error error, tree)
  | .ok names => (.ok (), { tree with nodes := tree.nodes.insert names (.file (some text)) })

/-- The files of a tree, as a run needs them. -/
def access : FileAccess (StateM FileTree) where
  isFile path := do return (← get).lookup? path matches some (.file _)
  isDirectory path := do return (← get).lookup? path matches some .directory
  read path := do return (← get).read path
  write path text := modifyGet fun tree => tree.write path text

end FileTree

end FabricConfig
