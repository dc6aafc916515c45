/-!
# Trees

A tree is a document before its scalars are understood: texts with their tags, and references in
place of repeated nodes. Nodes that are referred to carry a number. When an anchor is used again
its number may be taken by a later node; a reference then means the last node that took it.

* `Tree.size`: how much of the document a tree takes up.
* `Tree.numbered`: the nodes with numbers, in the order in which they start.
-/

namespace LayeredConfig.Yaml

/-- A tag with its handle replaced. `sound` tells whether its octets make up characters. -/
structure Tag where
  text : List Char
  sound : Bool
deriving DecidableEq, Repr

/-- What stands in front of the content of a node: the number of its anchor, and its tag. -/
structure Marks where
  number : Option Nat
  tag : Option Tag
deriving DecidableEq, Repr

/-- Neither anchor nor tag. -/
def Marks.blank : Marks := ⟨none, none⟩

/-- A document before its scalars are understood. -/
inductive Tree where
  | scalar (marks : Marks) (text : List Char) (plain : Bool)
  | sequence (marks : Marks) (items : List Tree)
  | mapping (marks : Marks) (entries : List (Tree × Tree))
  | reference (number : Nat)
deriving Repr, Inhabited

namespace Tree

/-- A node without content. -/
def empty : Tree := .scalar .blank [] true

mutual

/-- The number of scalars and references, and of starts and ends of collections. -/
def size : Tree → Nat
  | .scalar .. => 1
  | .reference _ => 1
  | .sequence _ items => 2 + itemsSize items
  | .mapping _ entries => 2 + entriesSize entries

def itemsSize : List Tree → Nat
  | [] => 0
  | item :: rest => item.size + itemsSize rest

def entriesSize : List (Tree × Tree) → Nat
  | [] => 0
  | (key, value) :: rest => key.size + value.size + entriesSize rest

end

/-- The number that a node carries. -/
def number? : Tree → Option Nat
  | .scalar marks .. => marks.number
  | .sequence marks _ => marks.number
  | .mapping marks _ => marks.number
  | .reference _ => none

/-- A node with its number, if it has one. -/
def own (tree : Tree) : List (Nat × Tree) :=
  match tree.number? with
  | some number => [(number, tree)]
  | none => []

mutual

/-- The numbered nodes of a tree, each before the nodes inside it. -/
def numbered : Tree → List (Nat × Tree)
  | .scalar marks text plain => own (.scalar marks text plain)
  | .reference _ => []
  | .sequence marks items => own (.sequence marks items) ++ itemsNumbered items
  | .mapping marks entries => own (.mapping marks entries) ++ entriesNumbered entries

def itemsNumbered : List Tree → List (Nat × Tree)
  | [] => []
  | item :: rest => item.numbered ++ itemsNumbered rest

def entriesNumbered : List (Tree × Tree) → List (Nat × Tree)
  | [] => []
  | (key, value) :: rest => key.numbered ++ value.numbered ++ entriesNumbered rest

end

/-- The node that a number stands for: the last one that took it. -/
def target? (nodes : List (Nat × Tree)) (number : Nat) : Option Tree :=
  (nodes.reverse.find? (·.1 == number)).map (·.2)

end Tree

end LayeredConfig.Yaml
