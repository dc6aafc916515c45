import LayeredConfig.Dictionary
import LayeredConfig.Yaml.Node

/-!
# Flat documents

A document flattened to dotted keys: the members of a mapping are named by their keys and the
items of a sequence by their places, counted from zero. A key follows its mapping after a dot,
unless nothing stands before it; a place always follows a dot. Where two scalars get the same
dotted key, the one that comes later stands.
-/

namespace LayeredConfig.Yaml

/-- The dotted key of a member below a dotted key. -/
def memberPath (path key : String) : String := if path = "" then key else path ++ "." ++ key

/-- The dotted key of an item below a dotted key. -/
def itemPath (path : String) (place : Nat) : String := path ++ "." ++ toString place

namespace Node

mutual

/-- Writes the scalars of a value below a dotted key into a dictionary. -/
def flattenInto (path : String) : Node → Dictionary String → Dictionary String
  | .sequence items, d => flattenItems path 0 items d
  | .mapping entries, d => flattenEntries path entries d
  | .tagged _ content, d => content.flattenInto path d
  | scalar, d =>
    match scalar.scalarText? with
    | some s => d.insert path s
    | none => d

def flattenItems (path : String) (place : Nat) :
    List Node → Dictionary String → Dictionary String
  | [], d => d
  | item :: rest, d =>
    flattenItems path (place + 1) rest (item.flattenInto (itemPath path place) d)

/-- Entries whose key names nothing are left out. -/
def flattenEntries (path : String) :
    List (Node × Node) → Dictionary String → Dictionary String
  | [], d => d
  | (key, value) :: rest, d =>
    flattenEntries path rest
      (match key.keyText? with
        | some name => value.flattenInto (memberPath path name) d
        | none => d)

end

/-- The scalars of a document by their dotted keys. -/
def flatten (node : Node) : Dictionary String := node.flattenInto "" .empty

end Node

end LayeredConfig.Yaml
