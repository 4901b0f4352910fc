import ShellTemplate.Files.Path
import ShellTemplate.Text.Utf8

/-! Files as they are found by path. -/
namespace ShellTemplate

/-- What is found at a path: a file with its bytes, one that may not be read, a directory, or the reason why
nothing can be found. On the way there may be a directory that may not be entered, or links that lead in a
circle. -/
inductive Found
  | file (bytes : List UInt8)
  | unreadable
  | directory
  | missing | notDirectory | tooLong | barred | looped | malformed
  deriving Repr, DecidableEq

abbrev Files := Text → Found

inductive Node
  | file (bytes : List UInt8)
  | directory
  deriving Repr, DecidableEq

/-- Files and directories below the current directory, each with the parts of its path. The directories
on the way to one are there too, and of two at one path the later is there. -/
structure FileTree where
  nodes : List (List Text × Node)

namespace FileTree

def empty : FileTree := ⟨[]⟩

def add (tree : FileTree) (path : Text) (node : Node) : FileTree :=
  ⟨tree.nodes ++ [((Path.parts path).filter Path.isStep, node)]⟩

/-- What is at the place with these parts. -/
def found (tree : FileTree) (place : List Text) : Found :=
  match tree.nodes.reverse.find? fun n => n.1 = place with
  | some (_, .file bytes) => .file bytes
  | some (_, .directory) => .directory
  | none =>
    if place.isEmpty || tree.nodes.any fun n => place.isPrefixOf n.1 then .directory else .missing

/-- The most bytes in one part of a path. -/
def maxPart : Nat := 255

/-- The most bytes in a path. -/
def maxPath : Nat := 4095

/-- Follows the parts of a path from a place in the tree; `none` is a place above the tree, of which
only the directories on the way up are known. -/
def walk (tree : FileTree) : Option (List Text) → List Text → Found
  | none, [] => .directory
  | some place, [] => tree.found place
  | place, p :: ps =>
    let here := match place with
      | some q => tree.found q
      | none => .directory
    match here with
    | .file _ => .notDirectory
    | .directory =>
      if Path.isStep p = false then tree.walk place ps
      else if p = (['.', '.'] : Text) then
        tree.walk (match place with
          | some [] => none
          | some (q :: qs) => some ((q :: qs).dropLast)
          | none => none) ps
      else if maxPart < Text.Utf8.nameLength p then .tooLong
      else match place with
        | some q => tree.walk (some (q ++ [p])) ps
        | none => .missing
    | other => other

/-- What a path leads to. A path that begins with a slash starts above the tree. -/
def look (tree : FileTree) : Files := fun path =>
  if path.contains '\x00' || !Text.Utf8.isNameable path then .malformed
  else if path.isEmpty then .missing
  else if maxPath < Text.Utf8.nameLength path then .tooLong
  else tree.walk (if path.head? = some ('/' : CodePoint) then none else some []) (Path.parts path)

end FileTree

end ShellTemplate
