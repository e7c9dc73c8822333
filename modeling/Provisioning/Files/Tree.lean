import Provisioning.Files.Store

/-!
# Trees of files

Files in memory: a tree of directories for relative paths, and one for absolute paths.

## Main definitions

* `Node`: a file or a directory
* `FileTree`: the two trees
* `Node.settle`: the names of a path without steps to the parent
* `FileTree.find`, `FileTree.put`, `FileTree.remove`: the entry at a path, and the tree with one set
  or taken out
* the instance of `FileStore` for computations with a tree as state
-/

namespace Provisioning

/-- A file or a directory. -/
inductive Node where
  | file (content : ByteArray)
  | directory (entries : List (String × Node))
deriving Inhabited

namespace Node

/-- The entry of a name. -/
def child? (name : String) : List (String × Node) → Option Node
  | [] => none
  | (n, x) :: rest => if n = name then some x else child? name rest

/-- The entries with the one of a name set. -/
def setEntry (name : String) (x : Node) : List (String × Node) → List (String × Node)
  | [] => [(name, x)]
  | (n, y) :: rest => if n = name then (n, x) :: rest else (n, y) :: setEntry name x rest

/-- The entries without the one of a name. -/
def dropEntry (name : String) (entries : List (String × Node)) : List (String × Node) :=
  entries.filter fun e => e.1 ≠ name

/-- The node at a path below a node. -/
def find : List String → Node → Except FileError Node
  | [], x => .ok x
  | _ :: _, file _ => .error .notDirectory
  | name :: path, directory entries =>
    match child? name entries with
    | none => .error .notFound
    | some x => x.find path

/-- The node with the entries of a directory below it changed. -/
def alter (f : List (String × Node) → Except FileError (List (String × Node))) :
    List String → Node → Except FileError Node
  | _, file _ => .error .notDirectory
  | [], directory entries => (f entries).map directory
  | name :: path, directory entries =>
    match child? name entries with
    | none => .error .notFound
    | some x => (x.alter f path).map fun x => directory (setEntry name x entries)

/-- The node with all directories of a path below it. -/
def makeDirectories : List String → Node → Except FileError Node
  | [], directory entries => .ok (directory entries)
  | [], file _ => .error .alreadyExists
  | _ :: _, file _ => .error .notDirectory
  | name :: path, directory entries =>
    let inner := (child? name entries).getD (directory [])
    (inner.makeDirectories path).map fun x => directory (setEntry name x entries)

end Node

/-- The directory of relative paths and the one of absolute paths. -/
structure FileTree where
  /-- The working directory. -/
  work : Node := .directory []
  /-- The root directory. -/
  root : Node := .directory [("dev", .directory [("null", .file ⟨#[]⟩)]), ("tmp", .directory [])]

namespace Node

/-- The names of a path below a node, with each step to the parent taken, `passed` being the names so
far, the last one first. The directories that are left again must be there. The parent of the node is
the node itself if it is the root; else it is a directory of which nothing else is known. -/
def settle (top : Node) (isRoot : Bool) :
    List String → List String → Except FileError (List String)
  | passed, [] => .ok passed.reverse
  | passed, name :: path =>
    if name ≠ ".." then settle top isRoot (name :: passed) path
    else
      match top.find passed.reverse, passed with
      | .error e, _ => .error e
      | .ok (.file _), _ => .error .notDirectory
      | .ok (.directory _), _ :: passed => settle top isRoot passed path
      | .ok (.directory _), [] =>
        if isRoot then settle top isRoot [] path
        else if path.all (· = "..") then .ok []
        else .error .notFound

end Node

/-- The names on a path. -/
def pathNames (path : String) : List String :=
  let step (c : Char) : List (List Char) → List (List Char)
    | [] => [[c]]
    | name :: more => if c = '/' then [] :: name :: more else (c :: name) :: more
  ((path.toList.foldr step [[]]).map String.ofList).filter fun name => name ≠ "" ∧ name ≠ "."

namespace FileTree

/-- Whether a path starts at the root. -/
def isAbsolute (path : String) : Bool := path.toList.head? = some '/'

/-- Whether a path leads to a directory by its form. -/
def endsInSlash (path : String) : Bool := path.toList.getLast? = some '/'

/-- The directory that a path starts in. -/
def start (tree : FileTree) (path : String) : Node :=
  if isAbsolute path then tree.root else tree.work

/-- The tree with the directory that a path starts in replaced. -/
def withStart (tree : FileTree) (path : String) (x : Node) : FileTree :=
  if isAbsolute path then { tree with root := x } else { tree with work := x }

/-- The names that lead from the start of a path to its entry. -/
def names (tree : FileTree) (path : String) : Except FileError (List String) :=
  if path.toList.contains '\x00' then .error .nulInPath
  else if path = "" then .error .notFound
  else (tree.start path).settle (isAbsolute path) [] (pathNames path)

/-- The entry at a path. -/
def find (tree : FileTree) (path : String) : Except FileError Node :=
  match tree.names path with
  | .error e => .error e
  | .ok names =>
    match (tree.start path).find names with
    | .ok (.file content) => if endsInSlash path then .error .notDirectory else .ok (.file content)
    | result => result

/-- The tree with the entries of the directory that a path's last name is in changed. -/
def alterParent (tree : FileTree) (path : String)
    (f : String → List (String × Node) → Except FileError (List (String × Node))) :
    Except FileError FileTree :=
  match tree.names path with
  | .error e => .error e
  | .ok names =>
    match names.getLast? with
    | none => .error .isDirectory
    | some name =>
      ((tree.start path).alter (f name) names.dropLast).map (tree.withStart path)

/-- The tree with a file's content set. -/
def put (tree : FileTree) (path : String) (content : ByteArray) : Except FileError FileTree :=
  tree.alterParent path fun name entries =>
    match Node.child? name entries with
    | some (.directory _) => .error .isDirectory
    | _ => .ok (Node.setEntry name (.file content) entries)

/-- The tree with all directories of a path. -/
def makeDirectories (tree : FileTree) (path : String) : Except FileError FileTree :=
  if path = "" then .ok tree
  else
    match tree.names path with
    | .error e => .error e
    | .ok names => ((tree.start path).makeDirectories names).map (tree.withStart path)

/-- The tree with a file moved to another path. -/
def move (tree : FileTree) (source target : String) : Except FileError FileTree :=
  match tree.find source with
  | .error e => .error e
  | .ok (.directory _) => .error .isDirectory
  | .ok (.file content) =>
    match tree.put target content with
    | .error e => .error e
    | .ok tree => tree.alterParent source fun name entries => .ok (Node.dropEntry name entries)

/-- The tree after an operation that may fail, and the result of the operation. -/
def commit (r : Except FileError FileTree) : StateM FileTree (Except FileError Unit) := fun tree =>
  match r with
  | .ok changed => (.ok (), changed)
  | .error e => (.error e, tree)

instance : FileStore (StateM FileTree) where
  isPresent path := fun tree => ((tree.find path).isOk, tree)
  read path := fun tree =>
    match tree.find path with
    | .ok (.file content) => (.ok content, tree)
    | .ok (.directory _) => (.error .isDirectory, tree)
    | .error e => (.error e, tree)
  write path bytes := fun tree => commit (tree.put path bytes) tree
  makeDirectories path := fun tree => commit (tree.makeDirectories path) tree
  rename source target := fun tree => commit (tree.move source target) tree

end FileTree

end Provisioning
