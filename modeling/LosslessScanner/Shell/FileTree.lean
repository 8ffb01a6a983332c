import LosslessScanner.Problem

/-!
# A directory of files

A tree of files as a value, so that what a program answers can be told without
running it: a list of paths below a directory, each naming a file with its bytes
or a directory. A path on the way to another is a directory as well.

A path to look up is followed part by part. Empty parts and single dots stay
where they are, double dots go up, and a part that follows a file fails, even an
empty one. Above the directory there is nothing to be found by name.
-/

namespace LosslessScanner

-- Bytes are compared as the core library does it, whatever else is in scope.
attribute [local instance (high)] ByteArray.instDecidableEq

/-- What is found at a path. -/
inductive Entry where
  | file (bytes : ByteArray)
  | directory
  deriving DecidableEq

/-- The files below a directory, by their paths in parts. -/
structure FileTree where
  entries : List (List Text × Entry)

namespace FileTree

/-- The tree with the given paths, their parts separated by slashes. -/
def ofPaths (entries : List (Text × Entry)) : FileTree :=
  ⟨entries.map fun (path, entry) => (path.splitOn '/', entry)⟩

/-- A place reached while a path is followed. -/
inductive Place where
  /-- Below the directory, by the parts that lead there. -/
  | below (parts : List Text)
  /-- Somewhere above it. -/
  | above

/-- What there is at a path given in parts. -/
def entry? (t : FileTree) (parts : List Text) : Option Entry :=
  match t.entries.lookup parts with
  | some e => some e
  | none =>
    if parts = [] ∨ t.entries.any (fun e => parts.isPrefixOf e.1) then some .directory
    else none

/-- What there is at a place. -/
def at? (t : FileTree) : Place → Option Entry
  | .below parts => t.entry? parts
  | .above => some .directory

/-- The place that one part of a path leads to from a directory. -/
def go (place : Place) (part : Text) : Place :=
  if part = [] ∨ part = ['.'] then place
  else if part = ['.', '.'] then
    match place with
    | .below [] => .above
    | .below parts => .below parts.dropLast
    | .above => .above
  else match place with
    | .below parts => .below (parts ++ [part])
    | .above => .above

/-- Follows the parts of a path. -/
def follow (t : FileTree) (place : Place) : List Text → Except ReadFailure Place
  | [] => .ok place
  | part :: parts =>
    match t.at? place with
    | none => .error .notFound
    | some (.file _) => .error .notADirectory
    | some .directory =>
      match place with
      | .above =>
        if part = [] ∨ part = ['.'] ∨ part = ['.', '.'] then t.follow place parts
        else .error .notFound
      | .below _ => t.follow (go place part) parts

/-- Reads the file at a path. -/
def read (t : FileTree) (path : Text) : Except ReadFailure ByteArray :=
  if path = [] then .error .notFound
  else
    let (start, parts) := match path with
      | '/' :: rest => (Place.above, rest.splitOn '/')
      | _ => (Place.below [], path.splitOn '/')
    match t.follow start parts with
    | .error f => .error f
    | .ok place =>
      match t.at? place with
      | none => .error .notFound
      | some .directory => .error .isADirectory
      | some (.file bytes) => .ok bytes

end FileTree

end LosslessScanner
