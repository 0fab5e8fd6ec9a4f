import Stepwise.Cli.Report

/-!
# Reading by name

What a command finds under the name of a file, given the directories and files that there are. A
name is followed from its first part to its last, so the first part that leads nowhere decides
which fault is reported.
-/

namespace Stepwise.Cli

/-- What a name can stand for. -/
inductive Entry where
  | directory
  | file (bytes : ByteArray)

/-- Directories and files. -/
structure FileTree where
  /-- The entries, each with the parts of its full name. The root is not among them. -/
  entries : List (List String × Entry)
  /-- The parts of the name of the working directory. -/
  current : List String := []

namespace FileTree

/-- The greatest size of a part of a name, in bytes. -/
def maxPart : Nat :=
  255

/-- The greatest size of a name, in bytes. -/
def maxName : Nat :=
  4095

/-- What stands at a place. -/
def entry? (tree : FileTree) (place : List String) : Option Entry :=
  match place with
  | [] => some .directory
  | place => tree.entries.lookup place

/-- Follows one part of a name from a place. An empty part stays where it is, as a full stop
does. -/
def step (tree : FileTree) (place : List String) (part : String) : Except ReadFault (List String) :=
  match tree.entry? place with
  | none => .error .missing
  | some (.file _) => .error .notDirectory
  | some .directory =>
    if part = "" ∨ part = "." then .ok place
    else if part = ".." then .ok place.dropLast
    else if maxPart < part.utf8ByteSize then .error .nameTooLong
    else
      match tree.entry? (place ++ [part]) with
      | none => .error .missing
      | some _ => .ok (place ++ [part])

/-- The place that a name leads to. -/
def place (tree : FileTree) (name : String) : Except ReadFault (List String) :=
  if name = "" then .error .missing
  else if maxName < name.utf8ByteSize then .error .nameTooLong
  else
    (name.splitOn "/").foldlM tree.step (if name.startsWith "/" then [] else tree.current)

/-- The bytes of the file that a name leads to. -/
def read (tree : FileTree) (name : String) : Except ReadFault ByteArray :=
  match tree.place name with
  | .error fault => .error fault
  | .ok place =>
    match tree.entry? place with
    | none => .error .missing
    | some .directory => .error .directory
    | some (.file bytes) => .ok bytes

end FileTree

end Stepwise.Cli
