import LayeredConfig.Number.Layout

/-!
# Document values

What a document means: scalars of five kinds, sequences, mappings, and values under a tag of
their own. The keys of a mapping are values themselves, and no two of them are equal.

* `Node.equal`: equality of values, for which the order of a mapping does not count.
* `Node.scalarText?`: the text of a scalar.
-/

namespace LayeredConfig.Yaml

open Number

/-- A document value. A tag is told without its mark. -/
inductive Node where
  | null
  | truth (value : Bool)
  | integer (value : Int)
  | floating (value : Floating)
  | text (value : String)
  | sequence (items : List Node)
  | mapping (entries : List (Node × Node))
  | tagged (tag : List Char) (content : Node)
deriving Repr, Inhabited

/-- Equality of floating-point keys, where `nan` is equal to itself. -/
def sameFloating : Floating → Floating → Bool
  | .nan, .nan => true
  | x, y => x.equals y

namespace Node

mutual

/-- Equality of values. An integer never equals a floating-point number. -/
def equal : Node → Node → Bool
  | .null, .null => true
  | .truth a, .truth b => a == b
  | .integer m, .integer n => m == n
  | .floating x, .floating y => sameFloating x y
  | .text s, .text t => s == t
  | .sequence items, .sequence others => itemsEqual items others
  | .mapping entries, .mapping others =>
    entries.length == others.length && entriesWithin entries others
  | .tagged tag content, .tagged other more => tag == other && content.equal more
  | _, _ => false

def itemsEqual : List Node → List Node → Bool
  | [], [] => true
  | item :: rest, other :: others => item.equal other && itemsEqual rest others
  | _, _ => false

/-- Whether each of the entries has an equal one among the others. -/
def entriesWithin : List (Node × Node) → List (Node × Node) → Bool
  | [], _ => true
  | (key, value) :: rest, others =>
    (others.any fun other => key.equal other.1 && value.equal other.2) &&
      entriesWithin rest others

end

/-- The text of a scalar: words, numbers as they are written in documents, and nothing for
null. -/
def scalarText? : Node → Option String
  | .null => some ""
  | .truth value => some (if value then "true" else "false")
  | .integer value => some (decimalText value)
  | .floating value => some (Layout.document.write binary64 value)
  | .text value => some value
  | _ => none

/-- The text of a key. Only texts, numbers and truth values name anything. -/
def keyText? : Node → Option String
  | .null => none
  | key => key.scalarText?

end Node

end LayeredConfig.Yaml
