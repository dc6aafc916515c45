import LayeredConfig.Yaml.Fault
import LayeredConfig.Yaml.Token
import LayeredConfig.Yaml.Tree

/-!
# Trees from tokens

A document is read by recursive descent over its tokens. A node stands in one of three positions,
which differ in the forms that they admit; where a node may be left out, an empty scalar takes
its place.

The loops over items and entries collect them in reverse and hand them over at the end. Each
call of `Reading.node` and each round of a loop passes over a token, or follows one that has
passed over a token, so twice the number of tokens bounds their nesting.
-/

namespace LayeredConfig.Yaml

/-- Room for one more collection. -/
def oneDeeper : Nat → Except Fault Nat
  | 0 => .error .tooDeep
  | room + 1 => .ok room

/-- What is left of a document: the tokens, and the anchors in use with their numbers. -/
structure Reading where
  tokens : List Token
  anchors : List (List Char × Nat)

/-- The stems that tag handles stand for. -/
abbrev Handles := List (List Char × Tag)

/-- The stems that need no directive. -/
def Handles.standard : Handles :=
  [(['!'], ⟨['!'], true⟩), (['!', '!'], ⟨"tag:yaml.org,2002:".toList, true⟩)]

/-- The tag that is meant by a written one. -/
def Handles.tagOf (handles : Handles) (t : TagToken) : Except Fault Tag :=
  if t.handle = [] then .ok ⟨t.suffix, t.sound⟩
  else match (handles ++ standard).lookup t.handle with
    | some stem => .ok ⟨stem.text ++ t.suffix, stem.sound && t.sound⟩
    | none => .error .undefinedTagHandle

namespace Reading

/-- The token that stands next. -/
def next (r : Reading) : Token := r.tokens.headD .streamEnd

def skip (r : Reading) : Reading := { r with tokens := r.tokens.tail }

/-- Gives an anchor its number, which is how many names were in use before. -/
def bindAnchor (r : Reading) (name : List Char) : Nat × Reading :=
  (r.anchors.length,
    { r with anchors := (name, r.anchors.length) :: r.anchors.filter fun a => a.1 ≠ name })

/-! ## Marks -/

/-- Reads an anchor, if one stands next. -/
def anchor? (r : Reading) : Option Nat × Reading :=
  match r.next with
  | .anchor name =>
    let (number, r) := r.skip.bindAnchor name
    (some number, r)
  | _ => (none, r)

/-- Reads a tag, if one stands next. -/
def tag? (handles : Handles) (r : Reading) : Except Fault (Option Tag × Reading) :=
  match r.next with
  | .tag t => (handles.tagOf t).map fun tag => (some tag, r.skip)
  | _ => .ok (none, r)

/-- Reads an anchor and a tag, in either order. -/
def marks (handles : Handles) (r : Reading) : Except Fault (Marks × Reading) := do
  let (first, r) := r.anchor?
  let (tag, r) ← r.tag? handles
  match first with
  | some number => return (⟨some number, tag⟩, r)
  | none =>
    let (number, r) := r.anchor?
    return (⟨number, tag⟩, r)

/-! ## Nodes -/

/-- Where a node stands: by itself or as an item of a block sequence, as a key or a value of a
block mapping, or in a flow collection. -/
inductive Position where
  | item
  | member
  | flow
deriving DecidableEq, Repr

/-- Reads a node, or takes an empty one where a token stands that comes after it. -/
def orEmpty (stops : List Token) (read : Reading → Except Fault (Tree × Reading)) (r : Reading) :
    Except Fault (Tree × Reading) :=
  if stops.contains r.next then .ok (.empty, r) else read r

/-- Reads the value of an entry after its key; without a colon it is empty. -/
def valueOrEmpty (stops : List Token) (read : Reading → Except Fault (Tree × Reading))
    (r : Reading) : Except Fault (Tree × Reading) :=
  if r.next = .value then orEmpty stops read r.skip else .ok (.empty, r)

/-- Reads the single entry of a mapping without brackets, after its key mark. Where no key
follows, the token that stands in its place is passed over. -/
def soleEntry (read : Reading → Except Fault (Tree × Reading)) (r : Reading) :
    Except Fault ((Tree × Tree) × Reading) := do
  let (key, r) ←
    if [Token.value, .flowEntry, .flowSequenceEnd].contains r.next then .ok (.empty, r.skip)
    else read r
  let (value, r) ← valueOrEmpty [.flowEntry, .flowSequenceEnd] read r
  return ((key, value), r)

/-- Passes over a comma, unless the collection ends here. -/
def pastComma (stop : Token) (r : Reading) : Except Fault Reading :=
  if r.next = .flowEntry then .ok r.skip
  else if r.next = stop then .ok r
  else .error (.unexpectedToken "',' or a closing bracket")

/-- The tokens that leave a key or a value of a block mapping out. -/
def memberStops : List Token := [.key, .value, .blockEnd]

mutual

/-- Reads a node with room for a number of nested collections. -/
def node (handles : Handles) : Nat → Nat → Position → Reading → Except Fault (Tree × Reading)
  | 0, _, _, _ => .error .endless
  | fuel + 1, room, position, r =>
    match r.next with
    | .alias name =>
      match r.anchors.lookup name with
      | some number => .ok (.reference number, r.skip)
      | none => .error .unknownAnchor
    | _ => do
      let (marks, r) ← r.marks handles
      match r.next, position with
      | .scalar text plain, _ => return (.scalar marks text plain, r.skip)
      | .flowSequenceStart, _ =>
        let (items, r) ← flowItems handles fuel (← oneDeeper room) [] r.skip
        return (.sequence marks items, r)
      | .flowMappingStart, _ =>
        let (entries, r) ← flowEntries handles fuel (← oneDeeper room) [] r.skip
        return (.mapping marks entries, r)
      | .blockEntry, .member =>
        let (items, r) ← openItems handles fuel (← oneDeeper room) [] r
        return (.sequence marks items, r)
      | .blockSequenceStart, .item | .blockSequenceStart, .member =>
        let (items, r) ← blockItems handles fuel (← oneDeeper room) [] r.skip
        return (.sequence marks items, r)
      | .blockMappingStart, .item | .blockMappingStart, .member =>
        let (entries, r) ← blockEntries handles fuel (← oneDeeper room) [] r.skip
        return (.mapping marks entries, r)
      | _, _ =>
        if marks = .blank then throw (.unexpectedToken "node content")
        else return (.scalar marks [] true, r)

/-- Reads the items of a block sequence, and its end. -/
def blockItems (handles : Handles) :
    Nat → Nat → List Tree → Reading → Except Fault (List Tree × Reading)
  | 0, _, _, _ => .error .endless
  | fuel + 1, room, items, r =>
    match r.next with
    | .blockEntry => do
      let (item, r) ← orEmpty [.blockEntry, .blockEnd] (node handles fuel room .item) r.skip
      blockItems handles fuel room (item :: items) r
    | .blockEnd => .ok (items.reverse, r.skip)
    | _ => .error (.unexpectedToken "'-' indicator")

/-- Reads the items of a block sequence that is not indented and so has no end of its own. -/
def openItems (handles : Handles) :
    Nat → Nat → List Tree → Reading → Except Fault (List Tree × Reading)
  | 0, _, _, _ => .error .endless
  | fuel + 1, room, items, r =>
    match r.next with
    | .blockEntry => do
      let (item, r) ← orEmpty (.blockEntry :: memberStops) (node handles fuel room .item) r.skip
      openItems handles fuel room (item :: items) r
    | _ => .ok (items.reverse, r)

/-- Reads the entries of a block mapping, and its end. -/
def blockEntries (handles : Handles) :
    Nat → Nat → List (Tree × Tree) → Reading → Except Fault (List (Tree × Tree) × Reading)
  | 0, _, _, _ => .error .endless
  | fuel + 1, room, entries, r =>
    match r.next with
    | .key => do
      let (key, r) ← orEmpty memberStops (node handles fuel room .member) r.skip
      let (value, r) ← valueOrEmpty memberStops (node handles fuel room .member) r
      blockEntries handles fuel room ((key, value) :: entries) r
    | .blockEnd => .ok (entries.reverse, r.skip)
    | _ => .error (.unexpectedToken "key")

/-- Reads the items of a flow sequence from the start of one, and its end. -/
def flowItems (handles : Handles) :
    Nat → Nat → List Tree → Reading → Except Fault (List Tree × Reading)
  | 0, _, _, _ => .error .endless
  | fuel + 1, room, items, r =>
    match r.next with
    | .flowSequenceEnd => .ok (items.reverse, r.skip)
    | .key => do
      let (entry, r) ← soleEntry (node handles fuel (← oneDeeper room) .flow) r.skip
      flowItems handles fuel room (.mapping .blank [entry] :: items)
        (← r.pastComma .flowSequenceEnd)
    | _ => do
      let (item, r) ← node handles fuel room .flow r
      flowItems handles fuel room (item :: items) (← r.pastComma .flowSequenceEnd)

/-- Reads the entries of a flow mapping from the start of one, and its end. -/
def flowEntries (handles : Handles) :
    Nat → Nat → List (Tree × Tree) → Reading → Except Fault (List (Tree × Tree) × Reading)
  | 0, _, _, _ => .error .endless
  | fuel + 1, room, entries, r =>
    match r.next with
    | .flowMappingEnd => .ok (entries.reverse, r.skip)
    | .key => do
      let (key, r) ←
        orEmpty [.value, .flowEntry, .flowMappingEnd] (node handles fuel room .flow) r.skip
      let (value, r) ←
        valueOrEmpty [.flowEntry, .flowMappingEnd] (node handles fuel room .flow) r
      flowEntries handles fuel room ((key, value) :: entries) (← r.pastComma .flowMappingEnd)
    | _ => do
      let (key, r) ← node handles fuel room .flow r
      flowEntries handles fuel room ((key, .empty) :: entries) (← r.pastComma .flowMappingEnd)

end

end Reading

/-! ## Documents -/

/-- The directives in front of a document. -/
structure Directives where
  version : Bool
  handles : Handles

/-- Reads directives, each kind and each handle once. -/
def Directives.read (d : Directives) : List Token → Except Fault (Directives × List Token)
  | .version major minor :: rest =>
    if d.version then .error .duplicateDirective
    else if major = 1 ∧ (minor = 1 ∨ minor = 2) then { d with version := true }.read rest
    else .error .incompatibleVersion
  | .tagHandle handle stem sound :: rest =>
    if (d.handles.lookup handle).isSome then .error .duplicateDirective
    else { d with handles := (handle, ⟨stem, sound⟩) :: d.handles }.read rest
  | rest => .ok (d, rest)

/-- Whether directives precede the rest. -/
def Directives.arePresent (d : Directives) : Bool := d.version || !d.handles.isEmpty

/-- Whether the token comes after a document, or at its very start. -/
def Token.isMargin : Token → Bool
  | .version .. | .tagHandle .. | .documentStart | .documentEnd | .streamEnd => true
  | _ => false

/-- Reads the only document of a stream. A stream without one is an empty document. -/
def Tree.ofTokens (tokens : List Token) : Except Fault Tree := do
  let (directives, rest) ← Directives.read ⟨false, []⟩ tokens
  let first := rest.headD .streamEnd
  let isMarked := first = .documentStart
  if directives.arePresent && !isMarked then throw (.unexpectedToken "document start")
  let start : Reading := ⟨if isMarked then rest.tail else rest, []⟩
  let isEmpty := if isMarked then start.next.isMargin else start.next = .streamEnd
  let (tree, r) ←
    if isEmpty then pure (.empty, start)
    else start.node directives.handles (2 * tokens.length + 2) nestingLimit .item
  match r.tokens.dropWhile (· = .documentEnd) with
  | [] | [.streamEnd] => return tree
  | _ => throw .moreThanOneDocument

end LayeredConfig.Yaml
