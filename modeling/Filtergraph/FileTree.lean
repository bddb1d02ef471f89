/-!
# Files

The files and directories that paths lead to, from the working directory or, after a leading
slash, from the root.  A path is walked part by part: empty parts and single dots stay in place,
double dots go up, and every part but the last has to lead to a directory.  Above the working
directory nothing is known but the directories on the way.
-/

namespace Filtergraph

/-- The files and directories, each by the names on the way to it.  The name of the root is a
slash, the working directory has no name, and the directories above it have double dots for
names. -/
structure FileTree where
  /-- The files. -/
  files : List (List String) := []
  /-- The directories, apart from the two at which paths start and those above. -/
  directories : List (List String) := []
  deriving DecidableEq, Repr

/-- Why a path is of no use to an operation. -/
inductive PathFault where
  | missing
  | occupied
  | notDirectory
  | directory
  | tooLong
  | malformed
  deriving DecidableEq, Repr

namespace PathFault

/-- The number of a fault; a malformed path never gets so far as to have one. -/
def number? : PathFault -> Option Nat
  | .missing => some 2
  | .occupied => some 17
  | .notDirectory => some 20
  | .directory => some 21
  | .tooLong => some 36
  | .malformed => none

/-- What a fault is called. -/
def text : PathFault -> String
  | .missing => "No such file or directory"
  | .occupied => "File exists"
  | .notDirectory => "Not a directory"
  | .directory => "Is a directory"
  | .tooLong => "File name too long"
  | .malformed => "embedded null byte"

end PathFault

/-- A fault of a path. -/
structure PathError where
  /-- The fault. -/
  fault : PathFault
  /-- The path, or the part of it at which the fault was found. -/
  path : String
  deriving DecidableEq, Repr

namespace FileTree

/-- What a path leads to. -/
inductive Node where
  | directory (names : List String)
  | file (names : List String)
  deriving DecidableEq, Repr

namespace Node

/-- The names on the way to a node. -/
def names : Node -> List String
  | .directory names => names
  | .file names => names

/-- Whether a node is a file. -/
def isFile : Node -> Bool
  | .directory _ => false
  | .file _ => true

end Node

/-- Paths of this many bytes and more are refused. -/
def pathLimit : Nat := 4096

/-- Parts of a path of more than this many bytes are refused. -/
def partLimit : Nat := 255

/-- The parts of a path between its slashes. -/
def split : List Char -> List (List Char)
  | [] => [[]]
  | c :: rest =>
    if c = '/' then [] :: split rest
    else
      match split rest with
      | part :: parts => (c :: part) :: parts
      | [] => [[c]]

/-- The parts of a path. -/
def parts (path : String) : List String :=
  (split path.toList).map String.ofList

/-- The directory at which a path starts. -/
def start (path : String) : List String :=
  if path.toList.head? = some '/' then ["/"] else []

/-- The directory above another one.  The root is above itself. -/
def above (names : List String) : List String :=
  if names = ["/"] then names
  else if names.getLast?.getD ".." = ".." then names ++ [".."]
  else names.dropLast

/-- Takes one part of a path from a directory. -/
def enter (tree : FileTree) (names : List String) (part : String) : Except PathFault Node :=
  if part = "" || part = "." then .ok (.directory names)
  else if part = ".." then .ok (.directory (above names))
  else if part.toList.contains '\x00' then .error .malformed
  else if partLimit < part.utf8ByteSize then .error .tooLong
  else if tree.directories.contains (names ++ [part]) then .ok (.directory (names ++ [part]))
  else if tree.files.contains (names ++ [part]) then .ok (.file (names ++ [part]))
  else .error .missing

/-- Takes one part of a path from where the parts before it lead to. -/
def advance (tree : FileTree) (node : Node) (part : String) : Except PathFault Node :=
  match node with
  | .directory names => tree.enter names part
  | .file _ => .error .notDirectory

/-- Refuses paths that lead nowhere whatever the files are. -/
def checkPath (path : String) : Except PathFault Unit :=
  if path.toList.contains '\x00' then .error .malformed
  else if path = "" then .error .missing
  else if pathLimit ≤ path.utf8ByteSize then .error .tooLong
  else .ok ()

/-- What a path leads to. -/
def walk (tree : FileTree) (path : String) : Except PathFault Node := do
  checkPath path
  (parts path).foldlM tree.advance (.directory (start path))

/-- Whether a path leads to a file. -/
def isFile (tree : FileTree) (path : String) : Bool :=
  match tree.walk path with
  | .ok (.file _) => true
  | _ => false

/-- The path of parts. -/
def join (parts : List String) : String :=
  "/".intercalate parts

/-- Takes one part of a path to a directory that is to be there, and checks the path up to that
part.  Dots are passed over when something before them was not found. -/
def approach (tree : FileTree) (found : Bool) (node : Node) (done : List String) (part : String) :
    Except PathFault Node := do
  if part = "" || (part = "." && !found) then return node
  checkPath (join (done ++ [part]))
  tree.advance node part

/-- Makes the directories that parts of a path lead to from a node, one below the other, and keeps
those that were made when a part fails.  The parts before them tell where that was, and the flag
whether they were found.  A file in the place of the last directory is a failure, and one before
that is when a part is taken from it. -/
def makeDirectories (tree : FileTree) (found : Bool) (node : Node) (done : List String) :
    List String -> Except PathError Node × FileTree
  | [] => (.ok node, tree)
  | part :: rest =>
    match tree.approach found node done part with
    | .ok next =>
      if next.isFile && !node.isFile && rest.all (· = "") then
        (.error ⟨.occupied, join (done ++ [part])⟩, tree)
      else makeDirectories tree found next (done ++ [part]) rest
    | .error .missing =>
      let names := node.names ++ [part]
      makeDirectories { tree with directories := tree.directories ++ [names] } false
        (.directory names) (done ++ [part]) rest
    | .error fault => (.error ⟨fault, join (done ++ [part])⟩, tree)

/-- Makes a directory and those above it, unless they are there. -/
def addDirectory (tree : FileTree) (path : String) : Except PathError Unit × FileTree :=
  let (outcome, tree) := tree.makeDirectories true (.directory (start path)) [] (parts path)
  (outcome.map fun _ => (), tree)

/-- Makes a file at a part of a path from a node, unless it is there. -/
def makeFile (tree : FileTree) (node : Node) (part : String) : Except PathFault FileTree :=
  match tree.advance node part with
  | .ok (.directory _) => .error .directory
  | .ok (.file _) => .ok tree
  | .error .missing => .ok { tree with files := tree.files ++ [node.names ++ [part]] }
  | .error fault => .error fault

/-- Makes a file and the directories above it, unless they are there. -/
def addFile (tree : FileTree) (path : String) : Except PathError Unit × FileTree :=
  match tree.makeDirectories true (.directory (start path)) [] (parts path).dropLast with
  | (.error error, tree) => (.error error, tree)
  | (.ok node, tree) =>
    let made := do
      checkPath path
      tree.makeFile node ((parts path).getLast?.getD "")
    match made with
    | .ok tree => (.ok (), tree)
    | .error fault => (.error ⟨fault, path⟩, tree)

/-- Takes a file away. -/
def removeFile (tree : FileTree) (path : String) : Except PathError Unit × FileTree :=
  match tree.walk path with
  | .ok (.file names) => (.ok (), { tree with files := tree.files.filter (· ≠ names) })
  | .ok (.directory _) => (.error ⟨.directory, path⟩, tree)
  | .error fault => (.error ⟨fault, path⟩, tree)

/-- Makes directories and files, as far as that goes. -/
def ofPaths (directories files : List String) : FileTree :=
  let tree := directories.foldl (fun tree path => (tree.addDirectory path).2) {}
  files.foldl (fun tree path => (tree.addFile path).2) tree

end FileTree
end Filtergraph
