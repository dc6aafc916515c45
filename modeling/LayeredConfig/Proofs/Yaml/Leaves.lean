import LayeredConfig.Yaml.Flat

/-!
# The leaves of a document

A leaf is a scalar with the steps that lead to it: by the names of members, by the places of items,
and through tags without a step. Members whose key names nothing lead nowhere. The leaves are
listed in the order of the document, and one that occurs twice is listed twice.

* `Node.Reaches`: what the steps of a path lead to.
* `Node.mem_leaves`: the listed leaves are the scalars that can be reached.
* `Node.flattenInto_eq`: flattening writes the leaves in order, each under its rendered steps, over
  whatever the dictionary holds.
-/

namespace LayeredConfig.Yaml

/-! ## Steps and leaves -/

/-- A step from a collection to a part of it. -/
inductive Step where
  | member (name : String)
  | item (place : Nat)
deriving DecidableEq, Repr

namespace Step

/-- What a step adds to a dotted key, apart from the dot. -/
def text : Step → String
  | member name => name
  | item place => toString place

/-- A dotted key with one more step. -/
def extend (path : String) : Step → String
  | member name => memberPath path name
  | item place => itemPath path place

end Step

/-- The dotted key of some steps below a dotted key. -/
def render (path : String) (steps : List Step) : String := steps.foldl Step.extend path

/-- The text of a scalar, and the steps to it. -/
structure Leaf where
  steps : List Step
  text : String
deriving DecidableEq, Repr

namespace Leaf

/-- The leaf of a part, seen from the collection. -/
def under (step : Step) (leaf : Leaf) : Leaf := { leaf with steps := step :: leaf.steps }

/-- The entry of a leaf below a dotted key. -/
def entry (path : String) (leaf : Leaf) : String × String := (render path leaf.steps, leaf.text)

end Leaf

namespace Node

mutual

/-- The leaves of a value, in order. -/
def leaves : Node → List Leaf
  | .sequence items => itemLeaves 0 items
  | .mapping entries => entryLeaves entries
  | .tagged _ content => content.leaves
  | scalar =>
    match scalar.scalarText? with
    | some s => [⟨[], s⟩]
    | none => []

def itemLeaves (place : Nat) : List Node → List Leaf
  | [] => []
  | item :: rest => item.leaves.map (.under (.item place)) ++ itemLeaves (place + 1) rest

/-- Entries whose key names nothing have no leaves. -/
def entryLeaves : List (Node × Node) → List Leaf
  | [] => []
  | (key, value) :: rest =>
    (match key.keyText? with
      | some name => value.leaves.map (.under (.member name))
      | none => []) ++ entryLeaves rest

end

/-- The steps lead from a value to a part of it. -/
inductive Reaches : Node → List Step → Node → Prop
  | here (node : Node) : Reaches node [] node
  | item {items : List Node} {place : Nat} {item node : Node} {steps : List Step}
    (hitem : items[place]? = some item) (h : Reaches item steps node) :
    Reaches (.sequence items) (.item place :: steps) node
  | member {entries : List (Node × Node)} {key value node : Node} {name : String}
    {steps : List Step} (hentry : (key, value) ∈ entries) (hname : key.keyText? = some name)
    (h : Reaches value steps node) : Reaches (.mapping entries) (.member name :: steps) node
  | tagged {tag : List Char} {content node : Node} {steps : List Step}
    (h : Reaches content steps node) : Reaches (.tagged tag content) steps node

theorem Reaches.trans {node sub part : Node} {steps more : List Step}
    (h : node.Reaches steps sub) (hmore : sub.Reaches more part) :
    node.Reaches (steps ++ more) part := by
  induction h with
  | here => exact hmore
  | item hitem _ ih => exact .item hitem (ih hmore)
  | member hentry hname _ ih => exact .member hentry hname (ih hmore)
  | tagged _ ih => exact .tagged (ih hmore)

/-! ## Induction on values -/

/-- A value is a scalar, or made of parts of which the statement is known. -/
@[elab_as_elim] theorem induction {motive : Node → Prop}
    (scalar : ∀ node text, node.scalarText? = some text → motive node)
    (sequence : ∀ items, (∀ item ∈ items, motive item) → motive (.sequence items))
    (mapping : ∀ entries, (∀ entry ∈ entries, motive entry.2) → motive (.mapping entries))
    (tagged : ∀ tag content, motive content → motive (.tagged tag content)) (node : Node) :
    motive node :=
  match node with
  | .null => scalar .null _ rfl
  | .truth value => scalar (.truth value) _ rfl
  | .integer value => scalar (.integer value) _ rfl
  | .floating value => scalar (.floating value) _ rfl
  | .text value => scalar (.text value) _ rfl
  | .sequence items =>
    sequence items fun item _ => induction scalar sequence mapping tagged item
  | .mapping entries =>
    mapping entries fun entry _ => induction scalar sequence mapping tagged entry.2
  | .tagged tag content => tagged tag content (induction scalar sequence mapping tagged content)
termination_by sizeOf node
decreasing_by
  · have hlt := List.sizeOf_lt_of_mem ‹item ∈ items›
    rw [Node.sequence.sizeOf_spec]
    omega
  · have hlt := List.sizeOf_lt_of_mem ‹entry ∈ entries›
    have hvalue : sizeOf entry.2 < sizeOf entry := by
      obtain ⟨key, value⟩ := entry
      show sizeOf value < sizeOf (key, value)
      rw [Prod.mk.sizeOf_spec]
      omega
    rw [Node.mapping.sizeOf_spec]
    omega
  · rw [Node.tagged.sizeOf_spec]
    omega

/-! ## The leaves of a value and of its parts -/

theorem leaves_of_scalarText? {node : Node} {text : String} (h : node.scalarText? = some text) :
    node.leaves = [⟨[], text⟩] := by
  cases node <;> cases h <;> rfl

theorem mem_itemLeaves {place : Nat} {items : List Node} {leaf : Leaf} :
    leaf ∈ itemLeaves place items ↔ ∃ (i : Nat) (item : Node), items[i]? = some item ∧
      ∃ inner ∈ item.leaves, leaf = inner.under (.item (place + i)) := by
  induction items generalizing place with
  | nil => simp [itemLeaves]
  | cons item rest ih =>
    rw [itemLeaves, List.mem_append, List.mem_map, ih]
    constructor
    · rintro (⟨inner, hinner, rfl⟩ | ⟨i, part, hpart, inner, hinner, rfl⟩)
      · exact ⟨0, item, rfl, inner, hinner, rfl⟩
      · refine ⟨i + 1, part, hpart, inner, hinner, ?_⟩
        rw [Nat.add_right_comm, Nat.add_assoc]
    · rintro ⟨i, part, hpart, inner, hinner, rfl⟩
      cases i with
      | zero =>
        cases hpart
        exact Or.inl ⟨inner, hinner, rfl⟩
      | succ i =>
        refine Or.inr ⟨i, part, hpart, inner, hinner, ?_⟩
        rw [Nat.add_right_comm, Nat.add_assoc]

theorem mem_entryLeaves {entries : List (Node × Node)} {leaf : Leaf} :
    leaf ∈ entryLeaves entries ↔ ∃ key value name, (key, value) ∈ entries ∧
      key.keyText? = some name ∧ ∃ inner ∈ value.leaves, leaf = inner.under (.member name) := by
  induction entries with
  | nil => simp [entryLeaves]
  | cons entry rest ih =>
    obtain ⟨key, value⟩ := entry
    have hhead : leaf ∈ (match key.keyText? with
          | some name => value.leaves.map (Leaf.under (.member name))
          | none => []) ↔
        ∃ name, key.keyText? = some name ∧
          ∃ inner ∈ value.leaves, leaf = inner.under (.member name) := by
      cases key.keyText? with
      | none => simp
      | some name => simp [eq_comm]
    rw [entryLeaves, List.mem_append, hhead, ih]
    constructor
    · rintro (⟨name, hname, hinner⟩ | ⟨k, v, name, hentry, hname, hinner⟩)
      · exact ⟨key, value, name, List.mem_cons_self, hname, hinner⟩
      · exact ⟨k, v, name, List.mem_cons_of_mem _ hentry, hname, hinner⟩
    · rintro ⟨k, v, name, hentry, hname, hinner⟩
      rcases List.mem_cons.mp hentry with he | hrest
      · cases he
        exact Or.inl ⟨name, hname, hinner⟩
      · exact Or.inr ⟨k, v, name, hrest, hname, hinner⟩

theorem reaches_of_mem_leaves {node : Node} {leaf : Leaf} (h : leaf ∈ node.leaves) :
    ∃ sub, node.Reaches leaf.steps sub ∧ sub.scalarText? = some leaf.text := by
  induction node using Node.induction generalizing leaf with
  | scalar node text hscalar =>
    rw [leaves_of_scalarText? hscalar, List.mem_singleton] at h
    subst h
    exact ⟨node, .here node, hscalar⟩
  | sequence items ih =>
    rw [leaves] at h
    obtain ⟨i, item, hitem, inner, hinner, rfl⟩ := mem_itemLeaves.mp h
    obtain ⟨sub, hreach, htext⟩ := ih item (List.mem_of_getElem? hitem) hinner
    rw [Nat.zero_add]
    exact ⟨sub, .item hitem hreach, htext⟩
  | mapping entries ih =>
    rw [leaves] at h
    obtain ⟨key, value, name, hentry, hname, inner, hinner, rfl⟩ := mem_entryLeaves.mp h
    obtain ⟨sub, hreach, htext⟩ := ih (key, value) hentry hinner
    exact ⟨sub, .member hentry hname hreach, htext⟩
  | tagged tag content ih =>
    rw [leaves] at h
    obtain ⟨sub, hreach, htext⟩ := ih h
    exact ⟨sub, .tagged hreach, htext⟩

theorem mem_leaves_of_reaches {node sub : Node} {steps : List Step} {text : String}
    (h : node.Reaches steps sub) (htext : sub.scalarText? = some text) :
    ⟨steps, text⟩ ∈ node.leaves := by
  induction h with
  | here node =>
    rw [leaves_of_scalarText? htext]
    exact List.mem_singleton_self _
  | @item items place item node steps hitem _ ih =>
    rw [leaves]
    refine mem_itemLeaves.mpr ⟨place, item, hitem, ⟨steps, text⟩, ih htext, ?_⟩
    rw [Nat.zero_add]
    rfl
  | @member entries key value node name steps hentry hname _ ih =>
    rw [leaves]
    exact mem_entryLeaves.mpr ⟨key, value, name, hentry, hname, ⟨steps, text⟩, ih htext, rfl⟩
  | tagged _ ih =>
    rw [leaves]
    exact ih htext

theorem mem_leaves {node : Node} {leaf : Leaf} :
    leaf ∈ node.leaves ↔ ∃ sub, node.Reaches leaf.steps sub ∧ sub.scalarText? = some leaf.text := by
  constructor
  · exact reaches_of_mem_leaves
  · rintro ⟨sub, hreach, htext⟩
    exact mem_leaves_of_reaches hreach htext

/-! ## Flattening writes the leaves -/

/-- Flattening a value amounts to writing its leaves. -/
def WritesLeaves (node : Node) : Prop :=
  ∀ path d, node.flattenInto path d = d.insertAll (node.leaves.map (Leaf.entry path))

theorem flattenItems_eq {items : List Node} (h : ∀ item ∈ items, item.WritesLeaves)
    (path : String) (place : Nat) (d : Dictionary String) :
    flattenItems path place items d =
      d.insertAll ((itemLeaves place items).map (Leaf.entry path)) := by
  induction items generalizing place d with
  | nil => rfl
  | cons item rest ih =>
    have hitem := h item List.mem_cons_self (itemPath path place) d
    have hrest : ∀ other ∈ rest, other.WritesLeaves := fun other ho =>
      h other (List.mem_cons_of_mem _ ho)
    rw [flattenItems, hitem, ih hrest, itemLeaves, List.map_append, List.map_map,
      Dictionary.insertAll_append]
    rfl

theorem flattenEntries_eq {entries : List (Node × Node)}
    (h : ∀ entry ∈ entries, entry.2.WritesLeaves) (path : String) (d : Dictionary String) :
    flattenEntries path entries d =
      d.insertAll ((entryLeaves entries).map (Leaf.entry path)) := by
  induction entries generalizing d with
  | nil => rfl
  | cons entry rest ih =>
    obtain ⟨key, value⟩ := entry
    have hvalue : value.WritesLeaves := h (key, value) List.mem_cons_self
    have hrest : ∀ other ∈ rest, other.2.WritesLeaves := fun other ho =>
      h other (List.mem_cons_of_mem _ ho)
    rw [flattenEntries, ih hrest, entryLeaves]
    cases key.keyText? with
    | none => rfl
    | some name =>
      simp only [hvalue (memberPath path name) d, List.map_append, List.map_map,
        Dictionary.insertAll_append]
      rfl

/-- What a dictionary holds gives way to the leaves, and among the leaves the later ones stand. -/
theorem flattenInto_eq (node : Node) (path : String) (d : Dictionary String) :
    node.flattenInto path d = d.insertAll (node.leaves.map (Leaf.entry path)) := by
  have hwrites : node.WritesLeaves := by
    induction node using Node.induction with
    | scalar node text hscalar =>
      intro path d
      rw [leaves_of_scalarText? hscalar]
      cases node <;> cases hscalar <;> rfl
    | sequence items ih =>
      intro path d
      rw [flattenInto, leaves]
      exact flattenItems_eq ih path 0 d
    | mapping entries ih =>
      intro path d
      rw [flattenInto, leaves]
      exact flattenEntries_eq ih path d
    | tagged tag content ih =>
      intro path d
      rw [flattenInto, leaves]
      exact ih path d
  exact hwrites path d

/-- A document holds its leaves, each under its rendered steps. -/
theorem flatten_eq (node : Node) :
    node.flatten = .ofList (node.leaves.map (Leaf.entry "")) :=
  flattenInto_eq node "" .empty

end Node

end LayeredConfig.Yaml
