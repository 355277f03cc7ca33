import FeatureRun.Files.Path
import FeatureRun.Text.Quoted

/-!
A tree of files with a working directory. Every operation walks its path from the root or from the
working directory and fails as the first component on the way asks for.
-/
namespace FeatureRun.Files
open FeatureRun.Text

/-- Why an operation on files fails. -/
inductive FileCause where
  | missing
  | existing
  | notDirectory
  | isDirectory
  | nameTooLong
deriving DecidableEq, Repr

def FileCause.number : FileCause → Nat
  | .missing => 2
  | .existing => 17
  | .notDirectory => 20
  | .isDirectory => 21
  | .nameTooLong => 36

def FileCause.text : FileCause → String
  | .missing => "No such file or directory"
  | .existing => "File exists"
  | .notDirectory => "Not a directory"
  | .isDirectory => "Is a directory"
  | .nameTooLong => "File name too long"

structure FileError where
  cause : FileCause
  path : Path
deriving DecidableEq, Repr

def FileError.message (e : FileError) : String :=
  "[Errno " ++ toString e.cause.number ++ "] " ++ e.cause.text ++ ": " ++ quoted e.path.text

/-- A path holds a character that ends names, or the operation fails on the files. -/
inductive FileFailure where
  | nullByte
  | file (e : FileError)
deriving DecidableEq, Repr

inductive Node where
  | directory
  | file (content : List UInt8)
deriving DecidableEq, Repr

/-- Directories and files by the components of their place below the root, which is a directory
itself. -/
structure Tree where
  nodes : List (List String × Node)
  workingDirectory : List String
deriving DecidableEq, Repr

namespace Tree

/-- What is at a place. -/
def at? (t : Tree) (place : List String) : Option Node :=
  if place.isEmpty then some .directory else t.nodes.lookup place

/-- Writes what is at a place. -/
def put (t : Tree) (place : List String) (node : Node) : Tree :=
  { t with nodes := t.nodes.filter (·.1 != place) ++ [(place, node)] }

/-- A component has at most 255 bytes. -/
def tooLong (component : String) : Bool := 255 < component.utf8ByteSize

/-- Walks from a place along the components. Only the last one may be missing, and then the place
is where it would be. -/
def walk (t : Tree) : List String → List String → Except FileCause (List String)
  | place, [] => .ok place
  | place, c :: rest =>
    match t.at? place with
    | none => .error .missing
    | some (.file _) => .error .notDirectory
    | some .directory =>
      if c = ".." then walk t place.dropLast rest
      else if tooLong c then .error .nameTooLong
      else walk t (place ++ [c]) rest

/-- The place of a path. The whole path has fewer than 4096 bytes. -/
def locate (t : Tree) (p : Path) : Except FileCause (List String) :=
  if 4096 ≤ p.text.utf8ByteSize then .error .nameTooLong
  else t.walk (if p.anchor = .relative then t.workingDirectory else []) p.parts

/-- Runs an operation on the place of a path. -/
def onPlace {α : Type} (t : Tree) (p : Path) (f : List String → Except FileCause α) :
    Except FileFailure α :=
  if p.text.toList.contains '\x00' then .error .nullByte
  else
    match t.locate p >>= f with
    | .ok x => .ok x
    | .error cause => .error (.file ⟨cause, p⟩)

/-- The content of a file. -/
def read (t : Tree) (p : Path) : Except FileFailure (List UInt8) :=
  t.onPlace p fun place =>
    match t.at? place with
    | some (.file content) => .ok content
    | some .directory => .error .isDirectory
    | none => .error .missing

/-- Writes a file anew. -/
def write (t : Tree) (p : Path) (content : List UInt8) : Except FileFailure Tree :=
  t.onPlace p fun place =>
    match t.at? place with
    | some .directory => .error .isDirectory
    | _ => .ok (t.put place (.file content))

def isDirectory (t : Tree) (p : Path) : Bool :=
  match t.onPlace p fun place => .ok (t.at? place) with
  | .ok (some .directory) => true
  | _ => false

/-- Makes one directory. -/
def makeDirectory (t : Tree) (p : Path) : Except FileFailure Tree :=
  t.onPlace p fun place =>
    match t.at? place with
    | some _ => .error .existing
    | none => .ok (t.put place .directory)

/-- Makes one directory, unless it is there. -/
def haveDirectory (t : Tree) (p : Path) : Except FileFailure Tree :=
  match t.makeDirectory p with
  | .ok t => .ok t
  | .error .nullByte => .error .nullByte
  | .error (.file e) =>
    if e.cause != .missing && t.isDirectory p then .ok t else .error (.file e)

/-- What a change of several steps leaves: the tree as the steps before a failure made it, and the
failure if there was one. -/
structure Attempt where
  tree : Tree
  failure? : Option FileFailure := none
deriving DecidableEq, Repr

/-- A change of one step leaves the tree as it was if it fails. -/
def attempt (t : Tree) : Except FileFailure Tree → Attempt
  | .ok changed => { tree := changed }
  | .error e => { tree := t, failure? := some e }

/-- Goes on with a tree unless there was a failure. -/
def Attempt.andThen (a : Attempt) (f : Tree → Attempt) : Attempt :=
  match a.failure? with
  | none => f a.tree
  | some _ => a

/-- Makes a directory with those above it that are missing. The argument bounds how many are
made. -/
def haveDirectoriesWithin : Nat → Tree → Path → Attempt
  | 0, t, p => t.attempt (t.haveDirectory p)
  | n + 1, t, p =>
    match t.makeDirectory p with
    | .error (.file ⟨.missing, q⟩) =>
      if p.parts.isEmpty then t.attempt (.error (.file ⟨.missing, q⟩))
      else
        (haveDirectoriesWithin n t p.parent).andThen fun t => t.attempt (t.haveDirectory p)
    | _ => t.attempt (t.haveDirectory p)

/-- Makes a directory with those above it that are missing. Those that were made before a failure
stay. -/
def haveDirectories (t : Tree) (p : Path) : Attempt :=
  haveDirectoriesWithin p.parts.length t p

end Tree

end FeatureRun.Files
