import LayeredConfig.Text.Pieces

/-!
# File trees and file systems

A tree of files, directories and symbolic links. A place is given by the names on the way from
the root. A path is a text, and resolving it means walking its segments one by one and following
every link on the way; what comes out is the canonical place, which leads through no link. A path
that does not start at the root starts in the working directory, which a file system has beside its
tree.

* `FileTree.descend`: a walk up to its end or to the next link.
* `FileTree.walk`: a walk through links.
* `FileTree.put`: a tree with one more node. It lands where its path leads, so a file that is put at
  a link is written to the link's target.
* `FileSystem.resolve`: the place of a path.
-/

namespace LayeredConfig

open Text

/-- The names on the way from the root. -/
abbrev Place := List String

/-- A place as a path. -/
def writePlace (place : Place) : String := "/" ++ join "/" place

/-- What stands at a place. -/
inductive FileNode where
  | file (content : ByteArray)
  | directory
  | link (target : String)

/-! ## Paths -/

/-- Whether a path starts at the root. -/
def isAbsolute (path : String) : Bool := path.toList.head? == some '/'

/-- The segments of a path. -/
def segments (path : String) : List String := (pieces '/' path.toList).map String.ofList

/-- A segment that names something in a directory. -/
def IsName (segment : String) : Prop := segment ≠ "" ∧ segment ≠ "." ∧ segment ≠ ".."

/-- A path below another one; an absolute path stands for itself. -/
def joinPath (base path : String) : String :=
  if isAbsolute path then path
  else if base = "" || base.toList.getLast? == some '/' then base ++ path
  else base ++ "/" ++ path

/-- The last name of a path, without slashes and dots after it. -/
def fileName? (path : String) : Option String :=
  (((segments path).filter fun s => s ≠ "" && s ≠ ".").getLast?).filter (· ≠ "..")

/-! ## Trees -/

/-- The nodes of a tree by their places. The root is always a directory. -/
structure FileTree where
  nodes : List (Place × FileNode)

/-- Where a walk comes to. -/
inductive Stage where
  | arrived (place : Place)
  /-- A link in a directory, with the segments after it. -/
  | atLink (home : Place) (target : String) (rest : List String)
  /-- A place in a directory where nothing stands, with the segments after it. -/
  | vacant (place : Place) (rest : List String)
  /-- A file in the middle of the way. -/
  | blocked
deriving DecidableEq, Repr

namespace Stage

/-- The place of a walk that has come to its end. -/
def place? : Stage → Option Place
  | .arrived place => some place
  | _ => none

end Stage

namespace FileTree

def empty : FileTree := ⟨[]⟩

def node? (t : FileTree) (place : Place) : Option FileNode :=
  if place = [] then some .directory else t.nodes.lookup place

/-- Walks from a directory along segments up to a link. Nothing comes after a file, not even an
empty segment. -/
def descend (t : FileTree) : Place → List String → Stage
  | place, [] => .arrived place
  | place, name :: rest =>
    if name = "" || name = "." then t.descend place rest
    else if name = ".." then t.descend place.dropLast rest
    else match t.node? (place ++ [name]) with
      | none => .vacant (place ++ [name]) rest
      | some .directory => t.descend (place ++ [name]) rest
      | some (.file _) => if rest = [] then .arrived (place ++ [name]) else .blocked
      | some (.link target) => .atLink place target rest

/-- How many links a path may lead through. -/
def linkLimit : Nat := 40

/-- Walks from a directory along segments through a number of links at most. -/
def walk (t : FileTree) (links : Nat) (place : Place) (rest : List String) : Stage :=
  match t.descend place rest, links with
  | .atLink home target rest, links + 1 =>
    t.walk links (if isAbsolute target then [] else home) (segments target ++ rest)
  | stage, _ => stage

/-- Every name on the way to the place stands for a directory. A name holds no slash, so that it is
one segment of a path. -/
def Walkable (t : FileTree) (place : Place) : Prop :=
  ∀ before name, before ++ [name] <+: place →
    IsName name ∧ '/' ∉ name.toList ∧ t.node? (before ++ [name]) = some .directory

/-! ## Building -/

/-- A tree with a node at a place, instead of what stood there. -/
def insert (t : FileTree) (place : Place) (node : FileNode) : FileTree := ⟨(place, node) :: t.nodes⟩

/-- Walks from a directory along segments and makes the directories that are not there. -/
def makeDirectories (t : FileTree) : Place → List String → Option (FileTree × Place)
  | place, [] => some (t, place)
  | place, name :: rest =>
    match t.descend place [name] with
    | .vacant next _ => (t.insert next .directory).makeDirectories next rest
    | _ => do
      let next ← (t.walk linkLimit place [name]).place?
      match t.node? next with
      | some .directory => t.makeDirectories next rest
      | _ => none

/-- Puts a node at a path from the root, with the directories above it. A file is written through
links and over a file; a directory may be there already; a link needs a vacant place. -/
def put (t : FileTree) (path : String) (node : FileNode) : Option FileTree := do
  guard (isAbsolute path)
  let names := (segments path).filter fun s => s ≠ "" && s ≠ "."
  let (t, home) ← t.makeDirectories [] names.dropLast
  let name := names.getLast?.toList
  match node with
  | .directory => Prod.fst <$> t.makeDirectories home name
  | .link _ =>
    match t.descend home name with
    | .vacant place _ => some (t.insert place node)
    | _ => none
  | .file _ =>
    match t.walk linkLimit home name with
    | .vacant place [] => some (t.insert place node)
    | .arrived place =>
      match t.node? place with
      | some (.file _) => some (t.insert place node)
      | _ => none
    | _ => none

end FileTree

/-! ## File systems -/

/-- A tree as it is seen from a working directory. There is no working directory when it has been
removed. -/
structure FileSystem extends FileTree where
  workingDirectory : Option Place := none
  walkable : ∀ place, workingDirectory = some place → toFileTree.Walkable place := by simp

namespace FileSystem

/-- Where the walk of a path starts. The empty path starts nowhere. -/
def start? (files : FileSystem) (path : String) : Option Place :=
  if path = "" then none
  else if isAbsolute path then some []
  else files.workingDirectory

/-- The canonical place of a path. -/
def resolve (files : FileSystem) (path : String) : Option Place :=
  (files.start? path).bind fun start =>
    (files.walk FileTree.linkLimit start (segments path)).place?

end FileSystem

end LayeredConfig
