import Typescribe.FileSystem

/-! Trees of files and directories, and the file system that one makes. -/
namespace Typescribe

/-- The names from the root down. -/
abbrev Path := List FileName

inductive Content where
  | text (s : String)
  /-- Octets that are no text. -/
  | octets (list : List UInt8)
  deriving DecidableEq, Repr

inductive FileEntry where
  | file (content : Content)
  | directory
  deriving DecidableEq, Repr

/-- What stands at which path, and where paths start that do not start at the root. The root is a
directory. -/
structure FileTree where
  entries : List (Path × FileEntry)
  workingDirectory : Path := []
  deriving DecidableEq, Repr

namespace FileTree

def get? (t : FileTree) (path : Path) : Option FileEntry :=
  if path = [] then some .directory else t.entries.lookup path

def set (t : FileTree) (path : Path) (entry : FileEntry) : FileTree :=
  { t with entries := (path, entry) :: t.entries.filter fun e => e.1 != path }

def isDirectory (t : FileTree) (path : Path) : Bool :=
  t.get? path = some .directory

/-- The directory that a path stands in; nothing is above the root. -/
def above (path : Path) : Path :=
  path.dropLast

/-- A name of at most 255 octets without NUL. -/
def isName (name : String) : Bool :=
  name.utf8ByteSize ≤ 255 && !name.toList.contains '\x00'

/-- Follows the parts of a path from a directory on. An empty part and a dot stay, two dots go up,
and a path goes on only in directories. -/
def follow? (t : FileTree) (current : Path) : List String → Option Path
  | [] => some current
  | part :: parts =>
    if t.isDirectory current then
      if part = "" ∨ part = "." then t.follow? current parts
      else if part = ".." then t.follow? (above current) parts
      else if isName part then t.follow? (current ++ [.text part]) parts
      else none
    else none

/-- The parts between slashes. -/
def parts (path : String) : List String :=
  (path.toList.splitOn '/').map String.ofList

/-- A path that begins with a slash starts at the root. -/
def start (t : FileTree) (path : String) : Path :=
  if path.toList.head? = some '/' then [] else t.workingDirectory

/-- Where the parts of a path lead. The empty path has none. -/
def locate? (t : FileTree) (path : String) : Option Path :=
  if path = "" then some t.workingDirectory else t.follow? (t.start path) (parts path)

def maxPathSize : Nat := 4095

/-- An empty path and one that is too long lead nowhere. -/
def resolve? (t : FileTree) (path : String) : Option Path :=
  if path.isEmpty || path.utf8ByteSize > maxPathSize then none else t.locate? path

def readText? (t : FileTree) (path : String) : Option String := do
  match t.get? (← t.resolve? path) with
  | some (.file (.text s)) => some s
  | _ => none

/-- The names right below a path. -/
def namesIn (t : FileTree) (directory : Path) : List FileName :=
  t.entries.filterMap fun e => if e.1.dropLast = directory then e.1.getLast? else none

def list? (t : FileTree) (path : String) : Option (List FileName) := do
  let directory ← t.resolve? path
  if t.isDirectory directory then some (t.namesIn directory) else none

/-- Follows the parts and makes the directories that are missing; those made before a failure
stay. -/
def createFrom (t : FileTree) (current : Path) : List String → Bool × FileTree
  | [] => (true, t)
  | part :: parts =>
    if part = ".." then t.createFrom (above current) parts
    else if isName part then
      match t.get? (current ++ [.text part]) with
      | some .directory => t.createFrom (current ++ [.text part]) parts
      | some (.file _) => (false, t)
      | none =>
        (t.set (current ++ [.text part]) .directory).createFrom (current ++ [.text part]) parts
    else (false, t)

/-- Whether a path leads to a directory. -/
def leadsToDirectory (t : FileTree) (path : String) : Bool :=
  ((t.resolve? path).map t.isDirectory).getD false

/-- The parts that name directories to make. A dot at the end asks for a directory that is there
already, so the name in front of it is left out. -/
def partsToMake (path : String) : List String :=
  let named := (parts path).filter fun part => part != ""
  let parts := named.filter fun part => part != "."
  if named.getLast? = some "." then parts.dropLast else parts

/-- The empty path needs nothing made. -/
def createDirectories (t : FileTree) (path : String) : Bool × FileTree :=
  if path.isEmpty then (true, t)
  else if path.toList.contains '\x00' || path.utf8ByteSize > maxPathSize then (false, t)
  else
    let (made, t) := t.createFrom (t.start path) (partsToMake path)
    (made && t.leadsToDirectory path, t)

/-- A directory is not written over. -/
def writeText? (t : FileTree) (path text : String) : Option FileTree := do
  let target ← t.resolve? path
  if t.isDirectory target then none else some (t.set target (.file (.text text)))

/-- The file system of a tree that each request may change. -/
def fileSystem : FileSystem (StateM FileTree) where
  readText path := do
    return (← get).readText? path
  list path := do
    return (← get).list? path
  createDirectories path := modifyGet fun t => t.createDirectories path
  writeText path text := modifyGet fun t =>
    match t.writeText? path text with
    | some t => (true, t)
    | none => (false, t)

end FileTree

end Typescribe
