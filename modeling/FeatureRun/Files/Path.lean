import FeatureRun.Text.Split

/-!
Paths in normal form: without empty components and without single dots. Two dots stay, since what
they mean depends on the files.
-/
namespace FeatureRun.Files
open FeatureRun.Text

/-- Where a path starts: at the working directory, or at the root, written with one slash or with
exactly two. -/
inductive Anchor where
  | relative
  | root
  | doubleRoot
deriving DecidableEq, Repr

structure Path where
  anchor : Anchor
  parts : List String
deriving DecidableEq, Repr

namespace Path

/-- The anchor of a written path. -/
def anchorOf (s : List Char) : Anchor :=
  match (s.takeWhile (· == '/')).length with
  | 0 => .relative
  | 2 => .doubleRoot
  | _ => .root

/-- The path of a text. -/
def ofString (s : String) : Path where
  anchor := anchorOf s.toList
  parts := ((split '/' s.toList).map String.ofList).filter fun p => p != "" && p != "."

def Anchor.text : Anchor → String
  | .relative => ""
  | .root => "/"
  | .doubleRoot => "//"

/-- The written form; a relative path without components is a dot. -/
def text (p : Path) : String :=
  if p.anchor = .relative && p.parts.isEmpty then "."
  else Anchor.text p.anchor ++ "/".intercalate p.parts

/-- The last component, empty if there is none. -/
def name (p : Path) : String := p.parts.getLast?.getD ""

/-- The path without its last component. -/
def parent (p : Path) : Path := { p with parts := p.parts.dropLast }

/-- Goes on from a path; a second path that starts at the root replaces the first. -/
def append (p q : Path) : Path :=
  if q.anchor = .relative then { p with parts := p.parts ++ q.parts } else q

/-- Goes on by the path of a text. -/
def join (p : Path) (s : String) : Path := p.append (ofString s)

/-- The part of a name behind its last point together with the point, unless the point is its
first or last character. -/
def splitName (name : List Char) : List Char × List Char :=
  let tail := (name.reverse.takeWhile (· != '.')).reverse
  let front := name.take (name.length - tail.length - 1)
  if tail.length = name.length || tail.isEmpty || front.isEmpty then (name, [])
  else (front, '.' :: tail)

/-- The last component without its suffix. -/
def stem (p : Path) : String := String.ofList (splitName p.name.toList).1

/-- The suffix of the last component. -/
def suffix (p : Path) : String := String.ofList (splitName p.name.toList).2

/-- The path with another last component. -/
def withName (p : Path) (name : String) : Path :=
  { p with parts := p.parts.dropLast ++ [name] }

end Path

end FeatureRun.Files
