import Std.Data.TreeMap
import Roundtable.Files.Store
/-!
A file store in memory: a tree of directories and files, seen from a working directory at its root.
Above the root there are directories of which nothing is known; they can be passed through, but
nothing is found or made in them.

A path is followed segment by segment. Each segment, an empty one at the end of a path included,
asks that a directory has been reached before it.
-/

namespace Roundtable

/-- What stands at a path of the tree. -/
inductive FileNode where
  | directory
  | file (content : ByteArray)

/-- The directories and files below the working directory, by the names on the way to them. -/
structure FileTree where
  nodes : Std.TreeMap (List String) FileNode

namespace FileTree

def empty : FileTree := ⟨∅⟩

/-- A place that a path leads to: names on the way from the root, last first, or above it. -/
inductive Place where
  | above
  | below (names : List String)

def maxNameBytes : Nat := 255

/-- The length from which on a path is too long, in bytes. -/
def maxPathBytes : Nat := 4096

def node? (tree : FileTree) : Place → Option FileNode
  | .above => some .directory
  | .below [] => some .directory
  | .below names => tree.nodes[names.reverse]?

def isDirectory (tree : FileTree) (place : Place) : Bool :=
  match tree.node? place with
  | some .directory => true
  | _ => false

/-- The place of a name in a directory, whether something stands there or not. -/
def nameIn (tree : FileTree) (directory : Place) (name : String) : Except FileFault Place :=
  if !tree.isDirectory directory then .error .notDirectory
  else if name.utf8ByteSize > maxNameBytes then .error .nameTooLong
  else
    match directory with
    | .above => .ok .above
    | .below names => .ok (.below (name :: names))

/-- The place that one segment leads to. -/
def step (tree : FileTree) (place : Place) (segment : String) : Except FileFault Place :=
  if segment = "" ∨ segment = "." then
    if tree.isDirectory place then .ok place else .error .notDirectory
  else if segment = ".." then
    if tree.isDirectory place then
      match place with
      | .below (_ :: names) => .ok (.below names)
      | _ => .ok .above
    else .error .notDirectory
  else
    match place, tree.nameIn place segment with
    | .above, .ok _ => .error .notFound
    | _, .ok next => if (tree.node? next).isSome then .ok next else .error .notFound
    | _, .error fault => .error fault

/-- The segments of a path that can be looked up, and the place from which they lead on. -/
def begin (path : String) : Except FileFault (Place × List String) :=
  if path.contains '\x00' then .error .zeroInPath
  else if path = "" then .error .notFound
  else if path.utf8ByteSize ≥ maxPathBytes then .error .nameTooLong
  else .ok (if Files.isAbsolute path then .above else .below [], Files.segments path)

/-- The place that a path leads to, where something stands. -/
def locate (tree : FileTree) (path : String) : Except FileFault Place := do
  let (start, segments) ← begin path
  segments.foldlM tree.step start

def read (tree : FileTree) (path : String) : Except FileFault String := do
  match tree.node? (← tree.locate path) with
  | some (.file content) =>
    match String.fromUTF8? content with
    | some text => return text
    | none => throw .notText
  | _ => throw .isDirectory

/-- The tree with a node set at a place. -/
def put (tree : FileTree) (place : Place) (node : FileNode) : Except FileFault FileTree :=
  match place with
  | .above => .error .accessDenied
  | .below names => .ok ⟨tree.nodes.insert names.reverse node⟩

/-- The tree with a new directory. Slashes at the end of the path do not matter. -/
def makeDirectory (tree : FileTree) (path : String) : Except FileFault FileTree := do
  let (start, segments) ← begin path
  let segments := (segments.reverse.dropWhile (· = "")).reverse
  match segments.getLast? with
  | none => throw .exists
  | some name =>
    let directory ← segments.dropLast.foldlM tree.step start
    if name = "." ∨ name = ".." then
      if tree.isDirectory directory then throw .exists else throw .notDirectory
    else
      let place ← tree.nameIn directory name
      match directory, tree.node? place with
      | .below _, some _ => throw .exists
      | _, _ => tree.put place .directory

/-- A directory that cannot be made because it is there already is no fault. -/
def unlessThere (tree : FileTree) (path : String) (fault : FileFault) : Except FileFault Unit :=
  match tree.locate path with
  | .ok place => if tree.isDirectory place then .ok () else .error fault
  | .error _ => .error fault

/-- The tree with the directory at `path` and the missing ones on the way to it, of which at most
`depth` are tried. What was made before a fault stays. -/
def makeDirectoriesWithin (tree : FileTree) (path : String) :
    Nat → FileTree × Except FileFault Unit
  | 0 => (tree, .error .notFound)
  | depth + 1 =>
    if path = "" then (tree, .ok ())
    else
      match tree.makeDirectory path with
      | .ok made => (made, .ok ())
      | .error .notFound =>
        match Files.parent? path with
        | none => (tree, .error .notFound)
        | some parent =>
          match tree.makeDirectoriesWithin parent depth with
          | (above, .error fault) => (above, .error fault)
          | (above, .ok _) =>
            match above.makeDirectory path with
            | .ok made => (made, .ok ())
            | .error fault => (above, above.unlessThere path fault)
      | .error fault => (tree, tree.unlessThere path fault)

/-- The tree with the directory at `path` and the missing ones on the way to it. The way has no more
directories than the path has characters. -/
def makeDirectories (tree : FileTree) (path : String) : FileTree × Except FileFault Unit :=
  tree.makeDirectoriesWithin path (path.length + 1)

/-- The tree with a text written to the file at a path. A path that ends in a slash, or in dots,
names a directory. -/
def write (tree : FileTree) (path text : String) : Except FileFault FileTree := do
  let (start, segments) ← begin path
  let inner := (segments.reverse.dropWhile (· = "")).reverse
  match inner.getLast? with
  | none => throw .isDirectory
  | some name =>
    let directory ← inner.dropLast.foldlM tree.step start
    if !tree.isDirectory directory then throw .notDirectory
    else if name = "." ∨ name = ".." ∨ inner.length < segments.length then throw .isDirectory
    else
      let place ← tree.nameIn directory name
      match directory, tree.node? place with
      | .below _, some .directory => throw .isDirectory
      | _, _ => tree.put place (.file text.toUTF8)

/-- Saves a text to a path, in a directory that is made if it is missing. -/
def save (tree : FileTree) (path text : String) : FileTree × Except SaveFault Unit :=
  let parent := (Files.parent? path).getD ""
  match tree.makeDirectories parent with
  | (tree, .error fault) => (tree, .error (.directory parent fault))
  | (tree, .ok _) =>
    match tree.write path text with
    | .ok written => (written, .ok ())
    | .error fault => (tree, .error (.writing path fault))

instance : FileStore FileTree where
  exists? tree path := (tree.locate path).toOption.isSome
  read := read
  save := save

/-- The tree with a file, or with a directory if the path ends in a slash, and all directories on
the way to it. -/
def add (tree : FileTree) (path : String) (content : ByteArray) : FileTree :=
  let names := (Files.segments path).filter (· ≠ "")
  let isFile := (Files.segments path).getLast? ≠ some ""
  let count := names.length
  ⟨(List.range count).foldl (fun nodes k =>
      let way := names.take (k + 1)
      if isFile ∧ k + 1 = count then nodes.insert way (.file content)
      else nodes.insert way .directory) tree.nodes⟩

/-- The paths of the tree with the contents of its files; a directory has none, and a slash at the
end of its path. -/
def list (tree : FileTree) : List (String × Option ByteArray) :=
  tree.nodes.toList.map fun (names, node) =>
    let path := "/".intercalate names
    match node with
    | .directory => (path ++ "/", none)
    | .file content => (path, some content)

end FileTree

end Roundtable
