/-
**Paths.**

A path is a text of names between slashes. It is followed name by name from the root or, without a
leading slash, from the directory the daemon was started in; every name but the last must lead to a
directory, and so must the last one if a slash follows it. What the names lead to is up to the tree.

* `Tree.follow`: where names lead, one after another; the first obstacle decides.
* `Tree.nodeAt`: the node at a path.
-/

import SensorCape.Kernel.Node

namespace SensorCape.Kernel

/-- A tree of nodes. -/
structure Tree where
  /-- The node that names lead to from the root, none of them a way back. -/
  nodeOf : List String → Node
  /-- The directory that paths without a leading slash start from. -/
  startingDirectory : List String

/-- The number of bytes that a name may have. -/
def maxNameLength : Nat := 255

/-- The number of bytes that a path must stay below. -/
def pathRoom : Nat := 4096

/-- Where a directory's entry with a name is; one name stays, one goes back. -/
def entered (directory : List String) (name : String) : List String :=
  if name = "" ∨ name = "." then directory
  else if name = ".." then directory.dropLast
  else directory ++ [name]

namespace Tree

/-- The node that further names lead to from a place. -/
def follow (tree : Tree) (place : List String) : List String → Node
  | [] => tree.nodeOf place
  | name :: rest =>
    match tree.nodeOf place with
    | .directory =>
      if maxNameLength < name.utf8ByteSize then .absent .nameTooLong
      else tree.follow (entered place name) rest
    | .absent reason => .absent reason
    | .sink | .zeros => .absent .notDirectory

/-- The node at a path. -/
def nodeAt (tree : Tree) (path : String) : Node :=
  if path = "" then .absent .noEntry
  else if pathRoom ≤ path.utf8ByteSize then .absent .nameTooLong
  else
    let start := if path.startsWith "/" then [] else tree.startingDirectory
    tree.follow start (path.splitOn "/")

end Tree

end SensorCape.Kernel
