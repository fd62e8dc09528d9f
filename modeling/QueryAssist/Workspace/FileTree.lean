import QueryAssist.Text.Quoted
import QueryAssist.Workspace.Path
/-!
# Files

Files and directories below the root, and the current directory, from which relative paths start.
-/

namespace QueryAssist.Workspace

inductive FileFault
  | notFound
  | denied
  | notDirectory
  | isDirectory
  | nameTooLong
  deriving DecidableEq, Repr

def FileFault.message (path : String) : FileFault → String
  | notFound => "[Errno 2] No such file or directory: " ++ Text.quoted path
  | denied => "[Errno 13] Permission denied: " ++ Text.quoted path
  | notDirectory => "[Errno 20] Not a directory: " ++ Text.quoted path
  | isDirectory => "[Errno 21] Is a directory: " ++ Text.quoted path
  | nameTooLong => "[Errno 36] File name too long: " ++ Text.quoted path

inductive Node
  | directory
  | file (bytes : List UInt8)
  | lockedFile

/-- The parts of a path count from the root. -/
structure FileTree where
  entries : List (List String × Node)
  current : List String

namespace FileTree

def base (t : FileTree) (path : Path) : List String :=
  if path.isAbsolute then [] else t.current

def ofList (current : List String) (files : List (String × Node)) : FileTree :=
  let empty : FileTree := ⟨[], current⟩
  { empty with
    entries := files.map fun file =>
      let path := Path.ofString file.1
      (empty.base path ++ path.parts, file.2) }

/-- The current directory, and those above it or above a listed path, need not be listed. -/
def node? (t : FileTree) (parts : List String) : Option Node :=
  match t.entries.lookup parts with
  | some node => some node
  | none =>
      if parts.isPrefixOf t.current || t.entries.any fun entry => parts.isPrefixOf entry.1 then
        some .directory
      else none

structure Spot where
  parts : List String
  node : Node

def maxNameBytes : Nat := 255

def maxPathBytes : Nat := 4095

/-- The root is its own parent. -/
def enter (t : FileTree) (spot : Spot) (name : String) : Except FileFault Spot :=
  match spot.node with
  | .file _ | .lockedFile => .error .notDirectory
  | .directory =>
      if name = ".." then .ok ⟨spot.parts.dropLast, .directory⟩
      else if maxNameBytes < name.utf8ByteSize then .error .nameTooLong
      else
        match t.node? (spot.parts ++ [name]) with
        | some node => .ok ⟨spot.parts ++ [name], node⟩
        | none => .error .notFound

def read (t : FileTree) (path : Path) : Except FileFault (List UInt8) := do
  if maxPathBytes < path.text.utf8ByteSize then .error .nameTooLong
  let spot ← path.parts.foldlM t.enter ⟨t.base path, .directory⟩
  match spot.node with
  | .file bytes => return bytes
  | .lockedFile => .error .denied
  | .directory => .error .isDirectory

end FileTree

end QueryAssist.Workspace
