import AsmDispatch.File.Basic
import AsmDispatch.File.Path

/-! # Trees of files

All files and directories from the root on, held in memory. A path that does not start at the root
starts in the working directory, and two dots lead up as far as the root. -/

namespace AsmDispatch

open Text (Bytes)

/-- What can be asked of a file or directory: to read it, to change it, to go through it. -/
inductive Access where
  | read
  | write
  | search
deriving DecidableEq, Repr

/-- Files and directories by their components from the root; the parents of an entry are directories
too, and so is the working directory. -/
structure Tree where
  files : List (List Text × Bytes) := []
  directories : List (List Text) := []
  working : List Text := []
  /-- What is not permitted. -/
  denied : List (List Text × Access) := []
deriving DecidableEq, Repr

namespace Tree

inductive Node where
  | file (content : Bytes)
  | directory
  | missing
deriving DecidableEq, Repr

def node (t : Tree) (place : List Text) : Node :=
  match t.files.lookup place with
  | some content => .file content
  | none =>
    if (t.working :: (t.directories ++ t.files.map (·.1))).any place.isPrefixOf then .directory
    else .missing

def permits (t : Tree) (place : List Text) (a : Access) : Bool := !t.denied.contains (place, a)

def maxNameBytes : Nat := 255

def maxPathBytes : Nat := 4095

/-- Follow components from a place. Each step needs a directory to start from, so only the last
component may be missing. -/
def follow (t : Tree) (place : List Text) : List Text → Except FileError.Kind (List Text)
  | [] => .ok place
  | c :: cs =>
    match t.node place with
    | .file _ => .error .notDirectory
    | .missing => .error .notFound
    | .directory =>
      if c = [] then follow t place cs
      else if !t.permits place .search then .error .permissionDenied
      else if c = ['.'] then follow t place cs
      else if c = ['.', '.'] then follow t place.dropLast cs
      else if maxNameBytes < (Text.Utf8.encode c).length then .error .nameTooLong
      else follow t (place ++ [c]) cs

/-- Where a path leads. -/
def locate (t : Tree) (p : Text) : Except FileError.Kind (List Text) :=
  if p = [] then .error .notFound
  else if maxPathBytes < (Text.Utf8.encode p).length then .error .nameTooLong
  else t.follow (if Path.root p = [] then t.working else []) (Text.pieces '/' p)

def read (t : Tree) (p : Text) : Except FileError.Kind Bytes := do
  let place ← t.locate p
  match t.node place with
  | .missing => .error .notFound
  | .directory => if t.permits place .read then .error .isDirectory else .error .permissionDenied
  | .file content => if t.permits place .read then .ok content else .error .permissionDenied

def isDirectory (t : Tree) (p : Text) : Bool :=
  match t.locate p with
  | .ok place => t.node place == .directory
  | .error _ => false

/-- The tree with a file put at a place. -/
def put (t : Tree) (place : List Text) (content : Bytes) : Tree :=
  if (t.files.lookup place).isSome then
    { t with files := t.files.map fun f => if f.1 = place then (place, content) else f }
  else { t with files := t.files ++ [(place, content)] }

/-- Change a file, or make one, for which its directory has to be changed. -/
def write (t : Tree) (p : Text) (content : Bytes) : Except FileError.Kind Tree := do
  let place ← t.locate p
  match t.node place with
  | .directory => .error .isDirectory
  | .file _ =>
    if t.permits place .write then return t.put place content else .error .permissionDenied
  | .missing =>
    if t.permits place.dropLast .write then return t.put place content
    else .error .permissionDenied

/-- A path that leads to a place: from the working directory if it lies there, and from the root
otherwise. -/
def path (t : Tree) (place : List Text) : Text :=
  if t.working.isPrefixOf place then Text.join ['/'] (place.drop t.working.length)
  else '/' :: Text.join ['/'] place

/-- The files that are new or have other content than before. -/
def changes (before after : Tree) : List (Text × Bytes) :=
  (after.files.filter fun f => before.files.lookup f.1 ≠ some f.2).map fun f =>
    (after.path f.1, f.2)

/-- A write as an action: one that fails leaves the tree as it is. -/
def writeFile (p : Text) (content : Bytes) : StateM Tree (Except FileError.Kind Unit) := do
  match (← get).write p content with
  | .ok t =>
    set t
    return .ok ()
  | .error e => return .error e

def fileSystem (standardInput : Bytes) : FileSystem (StateM Tree) where
  standardInput := return standardInput
  read p := return (← get).read p
  isDirectory p := return (← get).isDirectory p
  write := writeFile

end Tree

end AsmDispatch
