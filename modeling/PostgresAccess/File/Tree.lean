import PostgresAccess.File
import PostgresAccess.File.System
import PostgresAccess.Text.Utf8

/-!
# A tree of files

What a program sees of the files below its working directory: regular files with their bytes, and
directories.  A path is walked part by part, so that two dots lead to the directory above and a part
below a regular file is refused.  The working directory stands in the directory of temporary files;
outside of it the tree has the files that were put there and those of the system.
-/

namespace PostgresAccess

/-- What a path of the tree holds. -/
inductive FileContent where
  | bytes (bytes : List UInt8)
  | directory
deriving DecidableEq, Repr

/-- The files below a working directory, by the parts of their paths; the first part of an absolute
path is a slash. -/
structure FileTree where
  entries : List (List String × FileContent)
deriving DecidableEq, Repr

namespace FileTree

/-- A working directory without files. -/
def empty : FileTree := ⟨[]⟩

/-- The tree of some files with relative paths. -/
def ofPaths (files : List (String × FileContent)) : FileTree :=
  ⟨files.map fun (path, content) => (Path.parts path, content)⟩

/-- The parts under which a file is kept. -/
def key (path : String) : List String :=
  if path.toList.head? = some '/' then "/" :: Path.parts path else Path.parts path

/-- The directory in which the working directory stands. -/
def surroundings : List String := ["tmp"]

/-- Where a walk has led. -/
inductive Node where
  /-- A directory of the tree. -/
  | directory (parts : List String)
  | file (bytes : List UInt8)
  /-- A directory outside of the tree, by its parts from the root. -/
  | outside (parts : List String)
  /-- A program of the system. -/
  | program
deriving DecidableEq, Repr

/-- Whether some parts lead to a directory of the tree. -/
def isDirectory (tree : FileTree) (parts : List String) : Bool :=
  parts.isEmpty || tree.entries.any fun (path, content) =>
    (path == parts && content == .directory) || (parts.isPrefixOf path && path != parts)

/-- The bytes of the regular file that some parts lead to. -/
def bytes? (tree : FileTree) (parts : List String) : Option (List UInt8) :=
  tree.entries.findSome? fun (path, content) =>
    match content with
    | .bytes bytes => if path = parts then some bytes else none
    | .directory => none

/-- The greatest number of bytes of a part of a path. -/
def maxPartLength : Nat := 255

/-- The greatest number of bytes of a path. -/
def maxPathLength : Nat := 4095

/-- Looks up a part in a directory of the tree. -/
def findInside (tree : FileTree) (parts : List String) : Except FileFault Node :=
  match tree.bytes? parts with
  | some bytes => .ok (.file bytes)
  | none => if tree.isDirectory parts then .ok (.directory parts) else .error .noSuchFile

/-- Looks up a part in a directory outside of the tree. -/
def findOutside (tree : FileTree) (parts : List String) : Except FileFault Node :=
  match tree.bytes? ("/" :: parts), SystemTree.find? parts with
  | some bytes, _ => .ok (.file bytes)
  | none, some .directory => .ok (.outside parts)
  | none, some (.link target) => .ok (.outside target)
  | none, some (.text content) => .ok (.file (Text.Utf8.encode content))
  | none, some .program => .ok .program
  | none, none => .error .noSuchFile

/-- Walks a part from a node on. -/
def walkPart (tree : FileTree) (node : Node) (part : String) : Except FileFault Node :=
  let isHere := part = "" ∨ part = "."
  let isTooLong := maxPartLength < part.utf8ByteSize
  match node with
  | .file _ | .program => .error .notADirectory
  | .outside parts =>
    if isHere then .ok node
    else if part = ".." then .ok (.outside parts.dropLast)
    else if isTooLong then .error .nameTooLong
    else tree.findOutside (parts ++ [part])
  | .directory parts =>
    if isHere then .ok node
    else if part = ".." then
      .ok (if parts.isEmpty then .outside surroundings else .directory parts.dropLast)
    else if isTooLong then .error .nameTooLong
    else tree.findInside (parts ++ [part])

/-- The node of a path. -/
def walk (tree : FileTree) (path : String) : Except FileFault Node :=
  if path = "" then .error .noSuchFile
  else if maxPathLength < path.utf8ByteSize then .error .nameTooLong
  else
    let start : Node := if path.toList.head? = some '/' then .outside [] else .directory []
    ((Path.splitParts path.toList).map String.ofList).foldlM tree.walkPart start

/-- The bytes with which a program starts. -/
def programMark : List UInt8 := [0x7F, 0x45, 0x4C, 0x46, 0x02, 0x01, 0x01, 0x00]

/-- The bytes of the file of a path. -/
def read (tree : FileTree) (path : String) : Except FileFault (List UInt8) :=
  match tree.walk path with
  | .error fault => .error fault
  | .ok (.file bytes) => .ok bytes
  | .ok .program => .ok programMark
  | .ok (.directory _) | .ok (.outside _) => .error .isADirectory

/-- The tree with a file at a path, which replaces what is there. -/
def put (tree : FileTree) (path : String) (bytes : List UInt8) : FileTree :=
  let parts := key path
  ⟨(tree.entries.filter fun entry => entry.1 != parts) ++ [(parts, .bytes bytes)]⟩

/-- The names of what a directory of the tree holds, each once. -/
def names (tree : FileTree) (directory : String) : List String :=
  let parts := Path.parts directory
  (tree.entries.filterMap fun (path, _) =>
    if parts.isPrefixOf path then path[parts.length]? else none).eraseDups

end FileTree

end PostgresAccess
