import LayeredConfig.Yaml.Node.Scalar
import LayeredConfig.Yaml.Tree.Reading

/-!
# Expansion

The value of a tree: scalars get their meaning, and each reference is replaced by the node that
it stands for. A node may be repeated, also inside itself, so two limits bound the expansion:
the nesting of collections, and the number of references followed, a hundred for each part of
the document.
-/

namespace LayeredConfig.Yaml

/-- The references followed for each part of a document. -/
def repetitionLimit : Nat := 100

/-- An expansion counts down the references that may still be followed. -/
abbrev Expansion := StateT Nat (Except Fault)

namespace Node

/-- Puts a value under the tag among some marks, if that is one of the document's own. -/
def underTag (marks : Marks) (node : Node) : Node :=
  match marks.tag.bind Tag.localName? with
  | some name => .tagged name node
  | none => node

/-- Follows a reference to its node. -/
def follow (nodes : List (Nat × Tree)) : Tree → Expansion Tree
  | .reference number => do
    match ← get, Tree.target? nodes number with
    | left + 1, some tree =>
      set left
      return tree
    | 0, _ => throw .tooManyAliases
    | _, none => throw .unknownAnchor
  | tree => return tree

/-- Expands the entries of a mapping in order and refuses a key that is there already. The
entries so far are in reverse. -/
def expandEntries (expand : Tree → Expansion Node) :
    List (Node × Node) → List (Tree × Tree) → Expansion (List (Node × Node))
  | found, [] => return found.reverse
  | found, (key, value) :: rest => do
    let key ← expand key
    if found.any fun entry => entry.1.equal key then throw .duplicateKey
    let value ← expand value
    expandEntries expand ((key, value) :: found) rest

/-- Expands a tree with room for a number of nested collections. -/
def expand (nodes : List (Nat × Tree)) : Nat → Tree → Expansion Node
  | 0, tree => do
    match ← follow nodes tree with
    | .scalar marks s plain => liftM (ofScalar marks.tag s plain)
    | _ => throw .tooDeep
  | room + 1, tree => do
    match ← follow nodes tree with
    | .scalar marks s plain => liftM (ofScalar marks.tag s plain)
    | .sequence marks items => return underTag marks (.sequence (← items.mapM (expand nodes room)))
    | .mapping marks entries =>
      return underTag marks (.mapping (← expandEntries (expand nodes room) [] entries))
    | .reference _ => throw .unknownAnchor

/-- The value of a tree. -/
def ofTree (tree : Tree) : Except Fault Node :=
  (expand tree.numbered nestingLimit tree).run' (repetitionLimit * tree.size)

end Node

end LayeredConfig.Yaml
