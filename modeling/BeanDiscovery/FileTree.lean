import BeanDiscovery.Table
import BeanDiscovery.Text

/-! # File trees

A tree of directories, plain files, archives and symbolic links. A node is known by the names that
lead to it from the root without any link. A path is followed name by name: empty names and single
dots stay where they are, double dots lead up, and links are followed at most forty times. -/
namespace BeanDiscovery

structure ArchiveEntry where
  name : String
  /-- An encrypted entry cannot be opened. -/
  encrypted : Bool := false
  deriving DecidableEq, Inhabited

/-- A node with what it holds; the nodes below a directory are kept by their own names. -/
inductive FileNode where
  | directory
  | file
  | archive (entries : List ArchiveEntry)
  | link (target : String)
  deriving DecidableEq, Inhabited

abbrev FilePlace := List String

structure FileTree where
  nodes : Table FilePlace FileNode := .empty
  deriving Inhabited

namespace FileTree

/-- The names along a path, with those that lead nowhere. -/
def steps (path : String) : List String := Text.split '/' path

def isAbsolute (path : String) : Bool := path.toList.head? = some '/'

/-- A path taken from a directory; an absolute one stands for itself. -/
def join (base path : String) : String :=
  if isAbsolute path then path
  else if base = "" || base.toList.getLast? = some '/' then base ++ path
  else base ++ "/" ++ path

def node? (tree : FileTree) (place : FilePlace) : Option FileNode :=
  if place.isEmpty then some .directory else tree.nodes.get? place

/-- Follows names from a directory, with so many links at most. Where something new is to stand, the
last name may be missing. -/
def follow (tree : FileTree) (isNew : Bool) (links : Nat) (place : FilePlace)
    (names : List String) : Option FilePlace :=
  match names with
  | [] => some place
  | name :: names =>
    if name = "" || name = "." then tree.follow isNew links place names
    else if name = ".." then tree.follow isNew links place.dropLast names
    else
      match tree.node? (place ++ [name]) with
      | none => if isNew && names.isEmpty then some (place ++ [name]) else none
      | some .directory => tree.follow isNew links (place ++ [name]) names
      | some (.link target) =>
        match links with
        | 0 => none
        | links + 1 =>
          tree.follow isNew links (if isAbsolute target then [] else place)
            (steps target ++ names)
      | some _ => if names.isEmpty then some (place ++ [name]) else none
termination_by (links, names.length)

def maxLinks : Nat := 40

def resolve (tree : FileTree) (path : String) : Option FilePlace :=
  tree.follow false maxLinks [] (steps path)

def nodeAt (tree : FileTree) (path : String) : Option FileNode :=
  (tree.resolve path).bind tree.node?

def isDirectory (tree : FileTree) (path : String) : Bool := tree.nodeAt path = some .directory

/-- Whether a path leads to a file, an archive included. -/
def isFile (tree : FileTree) (path : String) : Bool :=
  match tree.nodeAt path with
  | some .file | some (.archive _) => true
  | _ => false

/-! ## Changing a tree -/

def descend (tree : FileTree) (place : FilePlace) : List String → FileTree × FilePlace
  | [] => (tree, place)
  | name :: names =>
    if name = "" || name = "." then tree.descend place names
    else if name = ".." then tree.descend place.dropLast names
    else
      match tree.follow false maxLinks place [name] with
      | some next => tree.descend next names
      | none =>
        let next := place ++ [name]
        FileTree.descend { nodes := tree.nodes.insert next .directory } next names

def makeDirectory (tree : FileTree) (path : String) : FileTree := (tree.descend [] (steps path)).1

def makeParents (tree : FileTree) (path : String) : FileTree :=
  (tree.descend [] (steps path).dropLast).1

/-- Writes a file or an archive at a path, in place of one that is there, and makes the directories
above it. A link is written through, also where it leads to nothing yet. -/
def write (tree : FileTree) (path : String) (node : FileNode) : FileTree :=
  let tree := tree.makeParents path
  match tree.follow true maxLinks [] (steps path) with
  | some place =>
    if tree.node? place = some .directory then tree
    else { nodes := tree.nodes.insert place node }
  | none => tree

/-- Puts a link where nothing is, and makes the directories above it. -/
def makeLink (tree : FileTree) (path target : String) : FileTree :=
  let (tree, parent) := tree.descend [] (steps path).dropLast
  { nodes := tree.nodes.insertNew (parent ++ (steps path).getLast?.toList) (.link target) }

/-- Removes what stands at a path, with everything below it; a link is removed itself. -/
def remove (tree : FileTree) (path : String) : FileTree :=
  let names := (steps path).filter (· ≠ "")
  match tree.follow false maxLinks [] names.dropLast with
  | some parent =>
    let place := parent ++ names.getLast?.toList
    { nodes := tree.nodes.restrict fun other => !place.isPrefixOf other }
  | none => tree

/-! ## Walking a tree -/

/-- The files below a directory, each by its names from there. Links are not followed. -/
def filesBelow (tree : FileTree) (place : FilePlace) : List (List String) :=
  tree.nodes.entries.filterMap fun entry =>
    match entry.2 with
    | .file | .archive _ =>
      if place.isPrefixOf entry.1 then some (entry.1.drop place.length) else none
    | _ => none

end FileTree
end BeanDiscovery
