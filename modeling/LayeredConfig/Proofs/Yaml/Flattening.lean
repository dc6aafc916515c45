import LayeredConfig.Proofs.Yaml.Leaves
import LayeredConfig.Text.Pieces
import Mathlib.Data.List.Nodup
import Std.Data.String.ToNat

/-!
# Flattening loses nothing

All leaves of a document are written into one dictionary, and of two leaves with the same dotted
key the earlier is lost. Members and items share the names: a member called `0` looks like the
first item, a name with a dot like two names, and an empty name below the root like none.

A document is unambiguous if the names within each mapping are different, not empty and without
dots. Then the dotted key of a leaf tells its steps: they are the pieces between the dots, apart
from empty ones (`namesIn_render`). Two leaves part at some collection, which is a mapping or a
sequence but not both, so there they go by different names (`nodup_names`).

* `Node.Unambiguous`: the names within every mapping that can be reached tell its members apart.
* `Node.nodup_keys`: the leaves of an unambiguous document have different dotted keys.
* `Node.flatten_keeps_every_leaf`: its flattening has one entry for each leaf and no others.
-/

namespace LayeredConfig.Yaml

open Text

/-! ## The names in a dotted key -/

/-- The pieces of a dotted key that are not empty. -/
def namesIn (key : String) : List String :=
  ((pieces '.' key.toList).filter (· ≠ [])).map String.ofList

theorem namesIn_empty : namesIn "" = [] := rfl

theorem namesIn_dot (key more : String) :
    namesIn (key ++ "." ++ more) = namesIn key ++ namesIn more := by
  have hlist : (key ++ "." ++ more).toList = key.toList ++ '.' :: more.toList := by
    simp [String.toList_append]
  rw [namesIn, hlist, pieces_append, List.filter_append, List.map_append]
  rfl

theorem namesIn_of_plain {name : String} (hne : name ≠ "") (hdot : '.' ∉ name.toList) :
    namesIn name = [name] := by
  have hlist : name.toList ≠ [] := fun h => hne (String.toList_eq_nil_iff.mp h)
  rw [namesIn, pieces_eq_singleton hdot]
  simp [hlist]

namespace Step

/-- The text of a step can be told in a dotted key. -/
def Plain (step : Step) : Prop := step.text ≠ "" ∧ '.' ∉ step.text.toList

/-- Places are written in digits. -/
theorem plain_item (place : Nat) : (item place).Plain := by
  have hdigits : (item place).text.toList = Nat.toDigits 10 place := Nat.toList_repr
  constructor
  · intro h
    rw [h] at hdigits
    exact Nat.toDigits_ne_nil hdigits.symm
  · intro h
    rw [hdigits] at h
    have hdot := Nat.isDigit_of_mem_toDigits (by decide) (by decide) h
    exact absurd hdot (by decide)

theorem text_item_inj {place other : Nat} (h : (item place).text = (item other).text) :
    place = other :=
  Nat.repr_inj.mp h

theorem namesIn_extend {step : Step} (h : step.Plain) (path : String) :
    namesIn (step.extend path) = namesIn path ++ [step.text] := by
  obtain ⟨hne, hdot⟩ := h
  cases step with
  | member name =>
    rw [extend, memberPath]
    split
    · rename_i hpath
      rw [hpath, namesIn_empty, List.nil_append]
      exact namesIn_of_plain hne hdot
    · rw [namesIn_dot]
      exact congrArg _ (namesIn_of_plain hne hdot)
  | item place =>
    rw [extend, itemPath, namesIn_dot]
    exact congrArg _ (namesIn_of_plain hne hdot)

end Step

/-- The names of the steps can be read off a rendered path. -/
theorem namesIn_render {steps : List Step} (h : ∀ step ∈ steps, step.Plain) (path : String) :
    namesIn (render path steps) = namesIn path ++ steps.map Step.text := by
  induction steps generalizing path with
  | nil => exact (List.append_nil _).symm
  | cons step rest ih =>
    have hrest : ∀ other ∈ rest, other.Plain := fun other ho =>
      h other (List.mem_cons_of_mem _ ho)
    have hstep : render path (step :: rest) = render (step.extend path) rest := rfl
    rw [hstep, ih hrest, Step.namesIn_extend (h step List.mem_cons_self), List.append_assoc]
    rfl

namespace Node

/-! ## Unambiguous documents -/

/-- The names that the keys of a mapping tell, in order. -/
def memberNames (entries : List (Node × Node)) : List String :=
  entries.filterMap fun entry => entry.1.keyText?

/-- The names within a mapping are different, and each of them can be told in a dotted key. -/
structure WellNamed (entries : List (Node × Node)) : Prop where
  nodup : (memberNames entries).Nodup
  ne_empty : ∀ name ∈ memberNames entries, name ≠ ""
  dot_free : ∀ name ∈ memberNames entries, '.' ∉ name.toList

/-- Every mapping that can be reached is well named. Nothing is asked of mappings under a key that
names nothing. -/
def Unambiguous (node : Node) : Prop :=
  ∀ steps entries, node.Reaches steps (.mapping entries) → WellNamed entries

theorem mem_memberNames {entries : List (Node × Node)} {key value : Node} {name : String}
    (hentry : (key, value) ∈ entries) (hname : key.keyText? = some name) :
    name ∈ memberNames entries :=
  List.mem_filterMap.mpr ⟨(key, value), hentry, hname⟩

theorem unambiguous_of_scalarText? {node : Node} {text : String}
    (h : node.scalarText? = some text) : node.Unambiguous := by
  intro steps entries hreach
  cases hreach <;> cases h

theorem unambiguous_sequence {items : List Node} :
    (sequence items).Unambiguous ↔ ∀ item ∈ items, item.Unambiguous := by
  constructor
  · intro h item hitem steps entries hreach
    obtain ⟨place, hplace⟩ := List.getElem?_of_mem hitem
    exact h _ entries (.item hplace hreach)
  · intro h steps entries hreach
    cases hreach with
    | item hitem hreach => exact h _ (List.mem_of_getElem? hitem) _ entries hreach

theorem unambiguous_mapping {entries : List (Node × Node)} :
    (mapping entries).Unambiguous ↔ WellNamed entries ∧
      ∀ key value name, (key, value) ∈ entries → key.keyText? = some name →
        value.Unambiguous := by
  constructor
  · intro h
    refine ⟨h [] entries (.here _), ?_⟩
    intro key value name hentry hname steps inner hreach
    exact h _ inner (.member hentry hname hreach)
  · rintro ⟨hnames, hmembers⟩ steps inner hreach
    cases hreach with
    | here => exact hnames
    | member hentry hname hreach => exact hmembers _ _ _ hentry hname _ inner hreach

theorem unambiguous_tagged {tag : List Char} {content : Node} :
    (tagged tag content).Unambiguous ↔ content.Unambiguous := by
  constructor
  · intro h steps entries hreach
    exact h steps entries (.tagged hreach)
  · intro h steps entries hreach
    cases hreach with
    | tagged hreach => exact h steps entries hreach

theorem plain_of_reaches {node sub : Node} {steps : List Step} (hreach : node.Reaches steps sub)
    (h : node.Unambiguous) : ∀ step ∈ steps, step.Plain := by
  induction hreach with
  | here => simp
  | item hitem _ ih =>
    have hrest := ih (unambiguous_sequence.mp h _ (List.mem_of_getElem? hitem))
    intro step hstep
    rcases List.mem_cons.mp hstep with rfl | hstep
    · exact Step.plain_item _
    · exact hrest step hstep
  | member hentry hname _ ih =>
    obtain ⟨hnames, hmembers⟩ := unambiguous_mapping.mp h
    have hmem := mem_memberNames hentry hname
    have hrest := ih (hmembers _ _ _ hentry hname)
    intro step hstep
    rcases List.mem_cons.mp hstep with rfl | hstep
    · exact ⟨hnames.ne_empty _ hmem, hnames.dot_free _ hmem⟩
    · exact hrest step hstep
  | tagged _ ih => exact ih (unambiguous_tagged.mp h)

/-! ## Different leaves have different names -/

/-- The names on the way to a leaf. -/
def leafNames (leaf : Leaf) : List String := leaf.steps.map Step.text

theorem nodup_under {leaves : List Leaf} (h : (leaves.map leafNames).Nodup) (step : Step) :
    ((leaves.map (Leaf.under step)).map leafNames).Nodup := by
  have hcons : (leaves.map (Leaf.under step)).map leafNames =
      (leaves.map leafNames).map (step.text :: ·) := by
    rw [List.map_map, List.map_map]
    rfl
  rw [hcons]
  exact h.map (List.cons_injective)

/-- Leaves below one step go with leaves whose first step has another text. -/
theorem nodup_under_append {first rest : List Leaf} {step : Step}
    (hfirst : (first.map leafNames).Nodup) (hrest : (rest.map leafNames).Nodup)
    (hother : ∀ leaf ∈ rest, ∃ (other : Step) (inner : Leaf),
      leaf = inner.under other ∧ step.text ≠ other.text) :
    ((first.map (Leaf.under step) ++ rest).map leafNames).Nodup := by
  rw [List.map_append, List.nodup_append]
  refine ⟨nodup_under hfirst step, hrest, ?_⟩
  intro names hnames others hothers heq
  subst heq
  simp only [List.mem_map] at hnames hothers
  obtain ⟨_, ⟨_, -, rfl⟩, hhead⟩ := hnames
  obtain ⟨leaf, hleaf, hlater⟩ := hothers
  obtain ⟨other, inner, rfl, hne⟩ := hother leaf hleaf
  exact hne (List.cons.inj (hhead.trans hlater.symm)).1

theorem nodup_itemLeaves {items : List Node}
    (h : ∀ item ∈ items, (item.leaves.map leafNames).Nodup) (place : Nat) :
    ((itemLeaves place items).map leafNames).Nodup := by
  induction items generalizing place with
  | nil => exact List.nodup_nil
  | cons item rest ih =>
    have hrest := ih (fun other ho => h other (List.mem_cons_of_mem _ ho)) (place + 1)
    rw [itemLeaves]
    refine nodup_under_append (h item List.mem_cons_self) hrest ?_
    -- The later places are greater, so their texts differ from the first one.
    intro leaf hleaf
    obtain ⟨i, part, -, inner, -, rfl⟩ := mem_itemLeaves.mp hleaf
    refine ⟨_, inner, rfl, fun htext => ?_⟩
    have hplace := Step.text_item_inj htext
    omega

theorem nodup_entryLeaves {entries : List (Node × Node)} (hnames : (memberNames entries).Nodup)
    (h : ∀ key value name, (key, value) ∈ entries → key.keyText? = some name →
      (value.leaves.map leafNames).Nodup) :
    ((entryLeaves entries).map leafNames).Nodup := by
  induction entries with
  | nil => exact List.nodup_nil
  | cons entry rest ih =>
    obtain ⟨key, value⟩ := entry
    have hrest : ∀ k v name, (k, v) ∈ rest → k.keyText? = some name →
        (v.leaves.map leafNames).Nodup := fun k v name hentry =>
      h k v name (List.mem_cons_of_mem _ hentry)
    cases hkey : key.keyText? with
    | none =>
      have hsame : memberNames ((key, value) :: rest) = memberNames rest := by
        simp [memberNames, hkey]
      have hleaves : entryLeaves ((key, value) :: rest) = entryLeaves rest := by
        rw [entryLeaves, hkey]
        rfl
      rw [hsame] at hnames
      rw [hleaves]
      exact ih hnames hrest
    | some name =>
      have hcons : memberNames ((key, value) :: rest) = name :: memberNames rest := by
        simp [memberNames, hkey]
      have hleaves : entryLeaves ((key, value) :: rest) =
          value.leaves.map (Leaf.under (.member name)) ++ entryLeaves rest := by
        rw [entryLeaves, hkey]
      rw [hcons, List.nodup_cons] at hnames
      obtain ⟨hfresh, hnames⟩ := hnames
      rw [hleaves]
      refine nodup_under_append (h key value name List.mem_cons_self hkey) (ih hnames hrest) ?_
      intro leaf hleaf
      obtain ⟨k, v, other, hentry, hother, inner, -, rfl⟩ := mem_entryLeaves.mp hleaf
      refine ⟨_, inner, rfl, fun htext => ?_⟩
      have hsame : name = other := htext
      rw [hsame] at hfresh
      exact hfresh (mem_memberNames hentry hother)

theorem nodup_names {node : Node} (h : node.Unambiguous) : (node.leaves.map leafNames).Nodup := by
  induction node using Node.induction with
  | scalar node text hscalar =>
    rw [leaves_of_scalarText? hscalar]
    exact List.nodup_singleton _
  | sequence items ih =>
    have hitems := unambiguous_sequence.mp h
    rw [leaves]
    exact nodup_itemLeaves (fun item hitem => ih item hitem (hitems item hitem)) 0
  | mapping entries ih =>
    obtain ⟨hnames, hmembers⟩ := unambiguous_mapping.mp h
    rw [leaves]
    refine nodup_entryLeaves hnames.nodup ?_
    intro key value name hentry hname
    exact ih (key, value) hentry (hmembers key value name hentry hname)
  | tagged tag content ih =>
    rw [leaves]
    exact ih (unambiguous_tagged.mp h)

/-! ## Different leaves have different dotted keys -/

/-- The names on the way to a leaf are those in its dotted key. -/
theorem namesIn_key {node : Node} (h : node.Unambiguous) {leaf : Leaf}
    (hleaf : leaf ∈ node.leaves) :
    namesIn (render "" leaf.steps) = leafNames leaf := by
  obtain ⟨sub, hreach, -⟩ := mem_leaves.mp hleaf
  rw [namesIn_render (plain_of_reaches hreach h), namesIn_empty, List.nil_append]
  rfl

theorem nodup_keys {node : Node} (h : node.Unambiguous) :
    (node.leaves.map fun leaf => render "" leaf.steps).Nodup := by
  have hnames : (node.leaves.map fun leaf => render "" leaf.steps).map namesIn =
      node.leaves.map leafNames := by
    rw [List.map_map]
    exact List.map_congr_left fun leaf hleaf => namesIn_key h hleaf
  refine List.Nodup.of_map namesIn ?_
  rw [hnames]
  exact nodup_names h

/-! ## The flattening of an unambiguous document -/

/-- **Flattening loses nothing.** In an unambiguous document every scalar that can be reached has a
dotted key of its own; the flattening holds its text there, and there are no other entries. -/
theorem flatten_keeps_every_leaf {node : Node} (h : node.Unambiguous) :
    (node.leaves.map fun leaf => render "" leaf.steps).Nodup ∧
      (∀ key text, node.flatten.get? key = some text ↔
        ∃ steps sub, node.Reaches steps sub ∧ sub.scalarText? = some text ∧
          render "" steps = key) ∧
      node.flatten.size = node.leaves.length ∧
      ∀ steps text, ⟨steps, text⟩ ∈ node.leaves ↔
        ∃ sub, node.Reaches steps sub ∧ sub.scalarText? = some text := by
  have hkeys : ((node.leaves.map (Leaf.entry "")).map Prod.fst).Nodup := by
    rw [List.map_map]
    exact nodup_keys h
  refine ⟨nodup_keys h, ?_, ?_, fun _ _ => mem_leaves⟩
  · intro key text
    rw [flatten_eq, Dictionary.get?_ofList_of_nodup hkeys, List.mem_map]
    constructor
    · rintro ⟨leaf, hleaf, hentry⟩
      cases hentry
      obtain ⟨sub, hreach, htext⟩ := mem_leaves.mp hleaf
      exact ⟨leaf.steps, sub, hreach, htext, rfl⟩
    · rintro ⟨steps, sub, hreach, htext, rfl⟩
      exact ⟨⟨steps, text⟩, mem_leaves.mpr ⟨sub, hreach, htext⟩, rfl⟩
  · rw [flatten_eq, Dictionary.size_ofList_of_nodup hkeys, List.length_map]

/-- Hosts by number and by name: a text, and a mapping with a member that looks like an item. -/
def hosts : Node := .sequence [.text "a", .mapping [(.integer 0, .null)]]

/-- Hosts and a tagged text side by side, and a member whose key names nothing. -/
def mixedDocument : Node :=
  .mapping [
    (.text "hosts", hosts),
    (.truth true, .tagged ['o', 'w', 'n'] (.text "b")),
    (.null, .text "skipped")]

theorem unambiguous_hosts : hosts.Unambiguous := by
  refine unambiguous_sequence.mpr (List.forall_mem_cons.mpr ⟨unambiguous_of_scalarText? rfl, ?_⟩)
  refine List.forall_mem_singleton.mpr (unambiguous_mapping.mpr ⟨⟨?_, ?_, ?_⟩, ?_⟩)
  · decide
  · decide
  · decide
  · intro key value name hentry _
    cases List.mem_singleton.mp hentry
    exact unambiguous_of_scalarText? rfl

theorem unambiguous_mixedDocument : mixedDocument.Unambiguous := by
  refine unambiguous_mapping.mpr ⟨⟨?_, ?_, ?_⟩, ?_⟩
  · decide
  · decide
  · decide
  · intro key value name hentry _
    simp only [List.mem_cons, Prod.mk.injEq, List.not_mem_nil, or_false] at hentry
    rcases hentry with ⟨-, rfl⟩ | ⟨-, rfl⟩ | ⟨-, rfl⟩
    · exact unambiguous_hosts
    · exact unambiguous_tagged.mpr (unambiguous_of_scalarText? rfl)
    · exact unambiguous_of_scalarText? rfl

theorem mixedDocument_keeps_three_leaves :
    mixedDocument.Unambiguous ∧ mixedDocument.flatten.size = 3 ∧
      mixedDocument.flatten.get? "hosts.1.0" = some "" := by
  have h := flatten_keeps_every_leaf unambiguous_mixedDocument
  have hreach : mixedDocument.Reaches [.member "hosts", .item 1, .member "0"] .null :=
    .member List.mem_cons_self rfl (.item rfl (.member List.mem_cons_self rfl (.here .null)))
  exact ⟨unambiguous_mixedDocument, h.2.2.1, (h.2.1 _ _).mpr ⟨_, _, hreach, rfl, rfl⟩⟩

end Node

end LayeredConfig.Yaml
