import LayeredConfig.Proofs.Yaml.Leaves
import Mathlib.Data.List.Basic

/-!
# Flattening in document order

Different leaves may get the same dotted key: a name with a dot looks like two names, a number like
its digits in a text, a name like a place, and below the root an empty name like none. Flattening
writes one leaf after the other, so of those with one key the last stands, and what the dictionary
held before stands where no leaf has the key.

What is the last leaf has to be told apart from how leaves are listed. A leaf has a position: at
each collection on the way to it, the number of parts that come before. Tags take no place in it,
and parts whose key names nothing are counted but hold no leaves. Document order is the
lexicographic order of positions.

* `Node.LeafAt`: the leaf at a position.
* `Node.inOrder_leaves`: `leaves` lists the leaf at each position once, in increasing order.
* `Node.last_leaf_of_a_key_stands`: what flattening any value leaves under any key.
-/

namespace LayeredConfig.Yaml

/-! ## Dotted keys -/

theorem render_member (path : String) (steps : List Step) (name : String) :
    render path (steps ++ [.member name]) =
      if render path steps = "" then name else render path steps ++ "." ++ name := by
  rw [render, List.foldl_append]
  rfl

theorem render_item (path : String) (steps : List Step) (place : Nat) :
    render path (steps ++ [.item place]) = render path steps ++ "." ++ toString place := by
  rw [render, List.foldl_append]
  rfl

namespace Node

/-! ## Positions -/

/-- The parts of a collection, each with the step to it if there is one. -/
def parts : Node → List (Option Step × Node)
  | .sequence items => items.mapIdx fun place item => (some (.item place), item)
  | .mapping entries => entries.map fun entry => (entry.1.keyText?.map .member, entry.2)
  | _ => []

/-- The leaf at a position of a value. -/
inductive LeafAt : Node → List Nat → Leaf → Prop
  | scalar {node : Node} {text : String} (htext : node.scalarText? = some text) :
    LeafAt node [] ⟨[], text⟩
  | part {node sub : Node} {place : Nat} {step : Step} {position : List Nat} {leaf : Leaf}
    (hpart : node.parts[place]? = some (some step, sub)) (h : LeafAt sub position leaf) :
    LeafAt node (place :: position) (leaf.under step)
  | tagged {tag : List Char} {content : Node} {position : List Nat} {leaf : Leaf}
    (h : LeafAt content position leaf) : LeafAt (.tagged tag content) position leaf

/-- The leaf at a position in a list of parts, the first of which has the number `start`. -/
def PartAt (start : Nat) (parts : List (Option Step × Node)) (position : List Nat) (leaf : Leaf) :
    Prop :=
  ∃ (i : Nat) (step : Step) (sub : Node) (rest : List Nat) (inner : Leaf),
    parts[i]? = some (some step, sub) ∧ sub.LeafAt rest inner ∧ position = (start + i) :: rest ∧
      leaf = inner.under step

theorem partAt_cons {start : Nat} {part : Option Step × Node} {rest : List (Option Step × Node)}
    {position : List Nat} {leaf : Leaf} :
    PartAt start (part :: rest) position leaf ↔
      (∃ step below inner, part.1 = some step ∧ part.2.LeafAt below inner ∧
          position = start :: below ∧ leaf = inner.under step) ∨
        PartAt (start + 1) rest position leaf := by
  constructor
  · rintro ⟨i, step, sub, below, inner, hpart, hleaf, hposition, rfl⟩
    cases i with
    | zero =>
      cases hpart
      exact Or.inl ⟨step, below, inner, rfl, hleaf, hposition, rfl⟩
    | succ i =>
      refine Or.inr ⟨i, step, sub, below, inner, hpart, hleaf, ?_, rfl⟩
      rw [hposition, Nat.add_right_comm, Nat.add_assoc]
  · rintro (⟨step, below, inner, hstep, hleaf, hposition, rfl⟩ |
      ⟨i, step, sub, below, inner, hpart, hleaf, hposition, rfl⟩)
    · refine ⟨0, step, part.2, below, inner, ?_, hleaf, hposition, rfl⟩
      rw [← hstep]
      rfl
    · refine ⟨i + 1, step, sub, below, inner, hpart, hleaf, ?_, rfl⟩
      rw [hposition, Nat.add_right_comm, Nat.add_assoc]

theorem leafAt_scalar_iff {node : Node} {text : String} (h : node.scalarText? = some text)
    {position : List Nat} {leaf : Leaf} :
    node.LeafAt position leaf ↔ position = [] ∧ leaf = ⟨[], text⟩ := by
  constructor
  · intro hleaf
    cases hleaf with
    | scalar htext =>
      cases h.symm.trans htext
      exact ⟨rfl, rfl⟩
    | part hpart => cases node <;> cases h <;> cases hpart
    | tagged => cases h
  · rintro ⟨rfl, rfl⟩
    exact .scalar h

theorem leafAt_tagged_iff {tag : List Char} {content : Node} {position : List Nat} {leaf : Leaf} :
    (tagged tag content).LeafAt position leaf ↔ content.LeafAt position leaf := by
  constructor
  · intro hleaf
    cases hleaf with
    | scalar htext => cases htext
    | part hpart => cases hpart
    | tagged h => exact h
  · exact .tagged

theorem leafAt_collection_iff {node : Node} (hscalar : node.scalarText? = none)
    (htagged : ∀ tag content, node ≠ .tagged tag content) {position : List Nat} {leaf : Leaf} :
    node.LeafAt position leaf ↔ PartAt 0 node.parts position leaf := by
  constructor
  · intro hleaf
    cases hleaf with
    | scalar htext => cases hscalar.symm.trans htext
    | part hpart h => exact ⟨_, _, _, _, _, hpart, h, by rw [Nat.zero_add], rfl⟩
    | tagged => exact absurd rfl (htagged _ _)
  · rintro ⟨i, step, sub, below, inner, hpart, hleaf, rfl, rfl⟩
    rw [Nat.zero_add]
    exact .part hpart hleaf

/-! ## Leaves of the parts -/

/-- The leaves of a part, seen from the collection. -/
def partLeaves : Option Step × Node → List Leaf
  | (some step, sub) => sub.leaves.map (.under step)
  | (none, _) => []

theorem itemLeaves_eq (start : Nat) (items : List Node) :
    itemLeaves start items =
      (items.mapIdx fun i item => (some (Step.item (start + i)), item)).flatMap partLeaves := by
  induction items generalizing start with
  | nil => rfl
  | cons item rest ih =>
    rw [itemLeaves, ih, List.mapIdx_cons, List.flatMap_cons]
    simp only [Nat.add_right_comm, Nat.add_assoc]
    rfl

theorem entryLeaves_eq (entries : List (Node × Node)) :
    entryLeaves entries =
      (entries.map fun entry =>
        (entry.1.keyText?.map Step.member, entry.2)).flatMap partLeaves := by
  induction entries with
  | nil => rfl
  | cons entry rest ih =>
    obtain ⟨key, value⟩ := entry
    rw [entryLeaves, ih, List.map_cons, List.flatMap_cons]
    cases key.keyText? <;> rfl

theorem leaves_sequence (items : List Node) :
    (sequence items).leaves = (sequence items).parts.flatMap partLeaves := by
  rw [leaves, itemLeaves_eq, parts]
  simp only [Nat.zero_add]

theorem leaves_mapping (entries : List (Node × Node)) :
    (mapping entries).leaves = (mapping entries).parts.flatMap partLeaves := by
  rw [leaves, entryLeaves_eq, parts]

/-! ## Leaves in document order -/

/-- The list holds each leaf with its position, in increasing order of the positions. -/
structure Lists (At : List Nat → Leaf → Prop) (located : List (List Nat × Leaf)) : Prop where
  pairwise : located.Pairwise fun a b => a.1 < b.1
  mem_iff : ∀ position leaf, (position, leaf) ∈ located ↔ At position leaf

/-- The leaves as they are listed are those with a position, in increasing order. -/
def InOrder (At : List Nat → Leaf → Prop) (leaves : List Leaf) : Prop :=
  ∃ located, Lists At located ∧ located.map Prod.snd = leaves

/-- Leaves of one part and of the parts after it. -/
theorem Lists.cons {sub : Node} {step : Step} {start : Nat} {rest : List (Option Step × Node)}
    {first later : List (List Nat × Leaf)} (hfirst : Lists sub.LeafAt first)
    (hlater : Lists (PartAt (start + 1) rest) later) :
    Lists (PartAt start ((some step, sub) :: rest))
      (first.map (fun x => (start :: x.1, x.2.under step)) ++ later) where
  pairwise := by
    rw [List.pairwise_append]
    refine ⟨?_, hlater.pairwise, ?_⟩
    · refine List.pairwise_map.mpr (hfirst.pairwise.imp ?_)
      intro a b hlt
      exact List.cons_lt_cons_iff.mpr (Or.inr ⟨rfl, hlt⟩)
    · rintro a ha ⟨position, leaf⟩ hb
      obtain ⟨x, -, rfl⟩ := List.mem_map.mp ha
      obtain ⟨i, -, -, below, -, -, -, rfl, -⟩ := (hlater.mem_iff position leaf).mp hb
      exact List.cons_lt_cons_iff.mpr (Or.inl (by omega))
  mem_iff position leaf := by
    rw [List.mem_append, hlater.mem_iff, partAt_cons]
    refine or_congr_left ?_
    constructor
    · intro hmem
      obtain ⟨⟨below, inner⟩, hinner, heq⟩ := List.mem_map.mp hmem
      cases heq
      exact ⟨step, below, inner, rfl, (hfirst.mem_iff below inner).mp hinner, rfl, rfl⟩
    · rintro ⟨other, below, inner, hother, hinner, rfl, rfl⟩
      cases hother
      exact List.mem_map.mpr ⟨(below, inner), (hfirst.mem_iff below inner).mpr hinner, rfl⟩

theorem inOrder_parts {parts : List (Option Step × Node)}
    (h : ∀ part ∈ parts, InOrder part.2.LeafAt part.2.leaves) (start : Nat) :
    InOrder (PartAt start parts) (parts.flatMap partLeaves) := by
  induction parts generalizing start with
  | nil =>
    refine ⟨[], ⟨.nil, fun position leaf => ?_⟩, rfl⟩
    refine iff_of_false List.not_mem_nil ?_
    rintro ⟨i, step, sub, below, inner, hpart, -⟩
    cases hpart
  | cons part rest ih =>
    obtain ⟨hpart, hrest⟩ := List.forall_mem_cons.mp h
    obtain ⟨later, hlater, hleaves⟩ := ih hrest (start + 1)
    obtain ⟨step?, sub⟩ := part
    cases step? with
    | none =>
      -- The part is counted, but none of its leaves can be named.
      refine ⟨later, ⟨hlater.pairwise, fun position leaf => ?_⟩, hleaves⟩
      rw [hlater.mem_iff, partAt_cons]
      refine (or_iff_right ?_).symm
      rintro ⟨step, below, inner, hstep, -⟩
      cases hstep
    | some step =>
      obtain ⟨first, hfirst, hown⟩ := hpart
      refine ⟨_, hfirst.cons hlater, ?_⟩
      rw [List.map_append, hleaves, List.map_map, List.flatMap_cons]
      congr 1
      show first.map (Leaf.under step ∘ Prod.snd) = sub.leaves.map (Leaf.under step)
      rw [← List.map_map, hown]

theorem inOrder_of_parts {node : Node} (hscalar : node.scalarText? = none)
    (htagged : ∀ tag content, node ≠ .tagged tag content)
    (hleaves : node.leaves = node.parts.flatMap partLeaves)
    (h : ∀ part ∈ node.parts, InOrder part.2.LeafAt part.2.leaves) :
    InOrder node.LeafAt node.leaves := by
  have hleafAt : node.LeafAt = PartAt 0 node.parts := by
    funext position leaf
    exact propext (leafAt_collection_iff hscalar htagged)
  rw [hleaves, hleafAt]
  exact inOrder_parts h 0

/-- The leaves of any value are listed in document order, each once for its position. -/
theorem inOrder_leaves (node : Node) : InOrder node.LeafAt node.leaves := by
  induction node using Node.induction with
  | scalar node text hscalar =>
    refine ⟨[([], ⟨[], text⟩)], ⟨List.pairwise_singleton _ _, fun position leaf => ?_⟩, ?_⟩
    · rw [List.mem_singleton, Prod.mk.injEq, leafAt_scalar_iff hscalar]
    · exact (leaves_of_scalarText? hscalar).symm
  | sequence items ih =>
    refine inOrder_of_parts rfl (by simp) (leaves_sequence items) fun part hpart => ?_
    obtain ⟨i, hi, rfl⟩ := List.mem_mapIdx.mp hpart
    exact ih _ (List.getElem_mem hi)
  | mapping entries ih =>
    refine inOrder_of_parts rfl (by simp) (leaves_mapping entries) fun part hpart => ?_
    obtain ⟨entry, hentry, rfl⟩ := List.mem_map.mp hpart
    exact ih entry hentry
  | tagged tag content ih =>
    have hleafAt : (tagged tag content).LeafAt = content.LeafAt := by
      funext position leaf
      exact propext leafAt_tagged_iff
    rwa [hleafAt, leaves]

/-! ## The last leaf of a key -/

theorem get?_flattenInto (node : Node) (path : String) (d : Dictionary String) (key : String) :
    (node.flattenInto path d).get? key =
      ((node.leaves.findRev? fun leaf => render path leaf.steps == key).map (·.text)).or
        (d.get? key) := by
  rw [flattenInto_eq]
  exact Dictionary.get?_insertAll_map d node.leaves (fun leaf => render path leaf.steps)
    (fun leaf => leaf.text) key

/-- **The last leaf of a key stands.** Flattening a value below any path leaves under a key the text
of the last leaf in document order whose steps are rendered to the key, and what the dictionary held
there if there is none. A name follows a dot unless nothing stands before it, and a place always
follows one. -/
theorem last_leaf_of_a_key_stands (node : Node) (path : String) (d : Dictionary String) :
    (∀ key, (node.flattenInto path d).get? key =
        ((node.leaves.findRev? fun leaf => render path leaf.steps == key).map (·.text)).or
          (d.get? key)) ∧
      (∃ located : List (List Nat × Leaf), located.map Prod.snd = node.leaves ∧
        located.Pairwise (fun a b => a.1 < b.1) ∧
        ∀ position leaf, (position, leaf) ∈ located ↔ node.LeafAt position leaf) ∧
      render path [] = path ∧
      ∀ steps,
        (∀ name, render path (steps ++ [.member name]) =
          if render path steps = "" then name else render path steps ++ "." ++ name) ∧
        ∀ place, render path (steps ++ [.item place]) =
          render path steps ++ "." ++ toString place := by
  refine ⟨node.get?_flattenInto path d, ?_, rfl, fun steps => ⟨?_, ?_⟩⟩
  · obtain ⟨located, hlists, hleaves⟩ := node.inOrder_leaves
    exact ⟨located, hleaves, hlists.pairwise, hlists.mem_iff⟩
  · exact render_member path steps
  · exact render_item path steps

/-- A name with a dot, and two names: the later leaf stands. -/
example :
    (flatten (.mapping [(.text "a.b", .integer 1), (.null, .text "x"),
      (.text "a", .mapping [(.text "b", .integer 2)])])).get? "a.b" = some "2" := by rfl

end Node

end LayeredConfig.Yaml
