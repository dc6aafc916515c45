/-!
# Tokens

The marks and texts that a document is made of. Indentation is spelled out: the block
collections that it opens and closes have tokens of their own.
-/

namespace LayeredConfig.Yaml

/-- A tag as it is written: a handle and a suffix. A verbatim tag has no handle. `sound` tells
whether the escapes of the suffix make up characters. -/
structure TagToken where
  handle : List Char
  suffix : List Char
  sound : Bool
deriving DecidableEq, Repr

/-- A mark or a text of a document. -/
inductive Token where
  | version (major minor : Nat)
  | tagHandle (handle : List Char) (stem : List Char) (sound : Bool)
  | documentStart
  | documentEnd
  | blockSequenceStart
  | blockMappingStart
  | blockEnd
  | flowSequenceStart
  | flowSequenceEnd
  | flowMappingStart
  | flowMappingEnd
  | blockEntry
  | flowEntry
  | key
  | value
  | alias (name : List Char)
  | anchor (name : List Char)
  | tag (tag : TagToken)
  | scalar (text : List Char) (plain : Bool)
  | streamEnd
deriving DecidableEq, Repr, Inhabited

end LayeredConfig.Yaml
