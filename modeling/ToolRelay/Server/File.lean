import ToolRelay.Server.Written
import ToolRelay.Text.Utf8

/-!
# Configuration files

Models a tree of files, and `load` and `save` of listings in it. The extension of a file's name
selects the format: TOML for `toml`, JSON otherwise.

Saving makes the directories of the path first and writes the file last, so that a listing that
cannot be written leaves the file as it was.
-/

namespace ToolRelay

/-- What is found at a path. -/
inductive FileNode where
  /-- A file with its bytes. -/
  | file (content : List UInt8)
  /-- A directory. -/
  | directory
  deriving DecidableEq, Repr

/-- The names on the way to a file. -/
abbrev FilePath := List String

/-- A tree of files: what is found at each path that exists. The empty path is the root, which is a
directory without being listed. -/
structure FileTree where
  /-- The nodes by path. -/
  nodes : List (FilePath × FileNode) := []

namespace FileTree

/-- What is found at a path. -/
def find? (t : FileTree) (path : FilePath) : Option FileNode :=
  if path.isEmpty then some .directory else t.nodes.lookup path

/-- Put a node at a path. -/
def put (t : FileTree) (path : FilePath) (node : FileNode) : FileTree :=
  ⟨(path, node) :: t.nodes.filter (·.1 ≠ path)⟩

/-- The paths that lead to a path, from the root on, without itself. -/
def parents (path : FilePath) : List FilePath :=
  (List.range path.length).map path.take

/-- The fault of a path that leads through a file, or through nothing. -/
def way? (t : FileTree) (path : FilePath) : Option FileFault :=
  (parents path).findSome? fun p =>
    match t.find? p with
    | none => some .notFound
    | some (.file _) => some .notDirectory
    | some .directory => none

/-- The bytes of a file. -/
def read (t : FileTree) (path : FilePath) : Except FileFault (List UInt8) :=
  match t.way? path with
  | some why => .error why
  | none =>
    match t.find? path with
    | none => .error .notFound
    | some .directory => .error .isDirectory
    | some (.file content) => .ok content

/-- Write a file, whether there is one or not. -/
def write (t : FileTree) (path : FilePath) (content : List UInt8) : Except FileFault FileTree :=
  match t.way? path with
  | some why => .error why
  | none =>
    match t.find? path with
    | some .directory => .error .isDirectory
    | _ => .ok (t.put path (.file content))

/-- Make a directory and those that lead to it. A file on the way is no directory, and a file at the
end exists already. -/
def makeDirectories (t : FileTree) (path : FilePath) : Except FileFault FileTree :=
  (parents path ++ [path]).foldlM (fun t p =>
    match t.find? p with
    | some .directory => .ok t
    | some (.file _) => .error (if p = path then .alreadyExists else .notDirectory)
    | none => .ok (t.put p .directory)) t

/-- Something is found at a path. -/
def has (t : FileTree) (path : FilePath) : Bool :=
  (t.way? path).isNone && (t.find? path).isSome

end FileTree

/-- The extension of a file's name: what follows its last dot, unless nothing stands before it. -/
def extension? (name : String) : Option String :=
  let cs := name.toList
  let ext := (cs.reverse.takeWhile (· ≠ '.')).reverse
  if cs.length ≤ ext.length + 1 then none else some (String.ofList ext)

/-- A path whose file is read and written as TOML. -/
def isTomlPath (path : FilePath) : Bool :=
  (path.getLast?.bind extension?) == some "toml"

namespace Listing

/-- Read a listing from text in the format of a path. -/
def ofText? (path : FilePath) (text : String) : Except ConfigFault Listing :=
  if isTomlPath path then ofToml? text else ofJson? text

/-- The text of a listing in the format of a path. -/
def toText? (path : FilePath) (l : Listing) : Except ConfigFault String :=
  if isTomlPath path then l.toToml? else .ok l.toJsonText

/-- `load` a listing. -/
def load (t : FileTree) (path : FilePath) : Except ConfigFault Listing :=
  match t.read path with
  | .error why => .error (.access why)
  | .ok bytes =>
    match Text.decodeStrict? bytes with
    | none => .error (.access .notText)
    | some cs => ofText? path (String.ofList cs)

/-- Load a listing; a file that is missing stands for an empty one. -/
def loadOrEmpty (t : FileTree) (path : FilePath) : Except ConfigFault Listing :=
  if t.has path then load t path else .ok {}

/-- `save` a listing. With the outcome comes the tree that is left, also when saving fails. -/
def save (l : Listing) (t : FileTree) (path : FilePath) : Except ConfigFault Unit × FileTree :=
  match t.makeDirectories path.dropLast with
  | .error why => (.error (.access why), t)
  | .ok t =>
    match l.toText? path with
    | .error why => (.error why, t)
    | .ok text =>
      match t.write path (Text.utf8Bytes text.toList) with
      | .error why => (.error (.access why), t)
      | .ok t => (.ok (), t)

end Listing

end ToolRelay
