import LayeredConfig.Proofs.Stack.Families
import LayeredConfig.Proofs.Stack.Overlay
import LayeredConfig.Proofs.Yaml.Flattening
import LayeredConfig.Source.Document
import Mathlib.Data.List.Pairwise

/-!
# Families extract subtrees

Flattening threads the path to a value through a document; a family takes a stem off the keys of a
source. The two meet in the keys below the path to a part: the family with that path for its stem is
the part, flattened as a document of its own.

Two things have to be ruled out. A leaf outside of the part might have a key below its path, such as
one under a sibling whose name begins alike. In an unambiguous document it cannot, since a key tells
the names of its steps, and the names lead to one part only (`exists_inner_leaf`). And a part is not
flattened alike below a path and on its own: the names of members lose their first dot at the root,
while the places of items keep it. That is why the family of a sequence lacks a dot that the
flattened sequence has.

* `render_below`, `render_eq_join`: dotted keys below a key, and as texts with dots between them.
* `Node.exists_inner_leaf`: the leaves below the names of a path are the leaves of the part there.
* `Node.get?_flatten_below`: so the keys below the path to a part are rendered from its leaves.
* `Node.family_extracts_subtree`: the family of a part that is a mapping, a sequence or a scalar.
-/

namespace LayeredConfig.Yaml

open Text

/-! ## Dotted keys below a key -/

namespace Step

/-- Below a key, members and items are written alike. -/
theorem extend_of_ne_empty {path : String} (h : path ≠ "") (step : Step) :
    step.extend path = path ++ "." ++ step.text := by
  cases step with
  | member name => exact if_neg h
  | item place => rfl

theorem extend_ne_empty {path : String} (h : path ≠ "") (step : Step) : step.extend path ≠ "" := by
  rw [extend_of_ne_empty h]
  intro hempty
  obtain ⟨hdotted, -⟩ := String.append_eq_empty_iff.mp hempty
  exact h (String.append_eq_empty_iff.mp hdotted).1

end Step

theorem render_append (path : String) (steps more : List Step) :
    render path (steps ++ more) = render (render path steps) more :=
  List.foldl_append

/-- What stands before a key stays before everything below it. -/
theorem render_below {inner : String} (h : inner ≠ "") (path : String) (steps : List Step) :
    render (path ++ inner) steps = path ++ render inner steps := by
  induction steps generalizing inner with
  | nil => rfl
  | cons step rest ih =>
    have hpath : path ++ inner ≠ "" := fun hempty => h (String.append_eq_empty_iff.mp hempty).2
    have hstep : step.extend (path ++ inner) = path ++ step.extend inner := by
      rw [step.extend_of_ne_empty hpath, step.extend_of_ne_empty h]
      simp only [String.append_assoc]
    show render (step.extend (path ++ inner)) rest = path ++ render (step.extend inner) rest
    rw [hstep, ih (step.extend_ne_empty h)]

theorem render_eq_join {path : String} (h : path ≠ "") (steps : List Step) :
    render path steps = join "." (path :: steps.map Step.text) := by
  induction steps generalizing path with
  | nil => exact String.intercalate_singleton.symm
  | cons step rest ih =>
    show render (step.extend path) rest = join "." (path :: step.text :: rest.map Step.text)
    rw [ih (step.extend_ne_empty h), step.extend_of_ne_empty h, join, join,
      String.intercalate_cons_append, String.intercalate_cons_cons]

/-- A member's name follows a dot below a path and nothing at the root. -/
theorem render_member_below {path name : String} (hpath : path ≠ "") (hname : name ≠ "")
    (more : List Step) :
    render path (.member name :: more) = path ++ "." ++ render "" (.member name :: more) := by
  have hstep : (Step.member name).extend path = path ++ "." ++ name :=
    Step.extend_of_ne_empty hpath _
  show render ((Step.member name).extend path) more = path ++ "." ++ render name more
  rw [hstep, render_below hname]

/-- A place follows a dot everywhere. -/
theorem render_item_below (path : String) (place : Nat) (more : List Step) :
    render path (.item place :: more) = path ++ render "" (.item place :: more) := by
  have hdotted : "." ++ toString place ≠ "" := fun hempty =>
    absurd (String.append_eq_empty_iff.mp hempty).1 (by decide)
  show render (path ++ "." ++ toString place) more = path ++ render ("." ++ toString place) more
  rw [String.append_assoc, render_below hdotted]

theorem render_ne_empty {steps : List Step} (hplain : ∀ step ∈ steps, step.Plain)
    (h : steps ≠ []) : render "" steps ≠ "" := by
  intro hempty
  have hnames := namesIn_render hplain ""
  rw [hempty, namesIn_empty, List.nil_append] at hnames
  exact h (List.map_eq_nil_iff.mp hnames.symm)

namespace Node

/-! ## The leaves of a part -/

theorem Unambiguous.of_reaches {node sub : Node} {steps : List Step} (h : node.Unambiguous)
    (hreach : node.Reaches steps sub) : sub.Unambiguous :=
  fun _ entries hmore => h _ entries (hreach.trans hmore)

/-- A name leads to one member only. -/
theorem WellNamed.value_unique {entries : List (Node × Node)} (h : WellNamed entries)
    {key other value part : Node} {name : String}
    (hentry : (key, value) ∈ entries) (hkey : key.keyText? = some name)
    (hpart : (other, part) ∈ entries) (hother : other.keyText? = some name) : value = part := by
  have hapart := List.pairwise_filterMap.mp h.nodup
  by_cases heq : (key, value) = (other, part)
  · exact congrArg Prod.snd heq
  · have hsymm : Std.Symm fun entry entry' : Node × Node =>
        ∀ name, entry.1.keyText? = some name → ∀ name', entry'.1.keyText? = some name' →
          name ≠ name' :=
      ⟨fun _ _ hne name hname name' hname' => Ne.symm (hne name' hname' name hname)⟩
    exact absurd rfl (hapart.forall hentry hpart heq name hkey name hother)

/-- The induction is on the path: the first name of the leaf leads to the part that the first step
leads to. -/
theorem exists_inner_leaf {node sub : Node} {steps : List Step} (hreach : node.Reaches steps sub)
    (h : node.Unambiguous) {leaf : Leaf} {names : List String} (hleaf : leaf ∈ node.leaves)
    (hnames : leafNames leaf = steps.map Step.text ++ names) :
    ∃ inner ∈ sub.leaves, leaf = ⟨steps ++ inner.steps, inner.text⟩ := by
  induction hreach generalizing leaf with
  | here => exact ⟨leaf, hleaf, rfl⟩
  | @item items place item node steps hitem _ ih =>
    rw [leaves] at hleaf
    obtain ⟨i, part, hpart, inner, hinner, rfl⟩ := mem_itemLeaves.mp hleaf
    have hcons : (Step.item (0 + i)).text :: leafNames inner =
        (Step.item place).text :: (steps.map Step.text ++ names) := hnames
    obtain ⟨hhead, htail⟩ := List.cons.inj hcons
    have hplace : 0 + i = place := Step.text_item_inj hhead
    rw [Nat.zero_add] at hplace
    subst hplace
    cases hitem.symm.trans hpart
    have hitem' := unambiguous_sequence.mp h item (List.mem_of_getElem? hitem)
    obtain ⟨deep, hdeep, rfl⟩ := ih hitem' hinner htail
    refine ⟨deep, hdeep, ?_⟩
    rw [Nat.zero_add]
    rfl
  | @member entries key value node name steps hentry hname _ ih =>
    rw [leaves] at hleaf
    obtain ⟨other, part, name', hpart, hname', inner, hinner, rfl⟩ := mem_entryLeaves.mp hleaf
    have hcons : name' :: leafNames inner = name :: (steps.map Step.text ++ names) := hnames
    obtain ⟨rfl, htail⟩ := List.cons.inj hcons
    obtain ⟨hwell, hmembers⟩ := unambiguous_mapping.mp h
    cases hwell.value_unique hentry hname hpart hname'
    obtain ⟨deep, hdeep, rfl⟩ := ih (hmembers _ _ _ hentry hname) hinner htail
    exact ⟨deep, hdeep, rfl⟩
  | tagged _ ih =>
    rw [leaves] at hleaf
    exact ih (unambiguous_tagged.mp h) hleaf hnames

/-! ## The flattening below a path -/

theorem get?_flatten_eq_some_iff {node : Node} (h : node.Unambiguous) {key text : String} :
    node.flatten.get? key = some text ↔
      ∃ leaf ∈ node.leaves, render "" leaf.steps = key ∧ leaf.text = text := by
  have hkeys : ((node.leaves.map (Leaf.entry "")).map Prod.fst).Nodup := by
    rw [List.map_map]
    exact nodup_keys h
  rw [flatten_eq, Dictionary.get?_ofList_of_nodup hkeys, List.mem_map]
  simp only [Leaf.entry, Prod.mk.injEq]

theorem get?_flatten_below {node sub : Node} {steps : List Step} (h : node.Unambiguous)
    (hreach : node.Reaches steps sub) {rest text : String} :
    node.flatten.get? (render "" steps ++ "." ++ rest) = some text ↔
      ∃ inner ∈ sub.leaves,
        render (render "" steps) inner.steps = render "" steps ++ "." ++ rest ∧
          inner.text = text := by
  rw [get?_flatten_eq_some_iff h]
  constructor
  · rintro ⟨leaf, hleaf, hkey, htext⟩
    -- The names in the key are those of the leaf, and they begin with the names of the path.
    have hnames : leafNames leaf = steps.map Step.text ++ namesIn rest := by
      rw [← namesIn_key h hleaf, hkey, namesIn_dot,
        namesIn_render (plain_of_reaches hreach h), namesIn_empty, List.nil_append]
    obtain ⟨inner, hinner, rfl⟩ := exists_inner_leaf hreach h hleaf hnames
    rw [render_append] at hkey
    exact ⟨inner, hinner, hkey, htext⟩
  · rintro ⟨inner, hinner, hkey, htext⟩
    obtain ⟨part, hpart, hscalar⟩ := mem_leaves.mp hinner
    have hleaf : ⟨steps ++ inner.steps, inner.text⟩ ∈ node.leaves :=
      mem_leaves.mpr ⟨part, hreach.trans hpart, hscalar⟩
    refine ⟨_, hleaf, ?_, htext⟩
    rw [render_append]
    exact hkey

theorem get?_flatten_below_mapping {node : Node} {members : List (Node × Node)}
    {steps : List Step} (h : node.Unambiguous) (hreach : node.Reaches steps (.mapping members))
    (hsteps : steps ≠ []) (rest : String) :
    node.flatten.get? (render "" steps ++ "." ++ rest) =
      (mapping members).flatten.get? rest := by
  have hpath := render_ne_empty (plain_of_reaches hreach h) hsteps
  have hsub := h.of_reaches hreach
  obtain ⟨hwell, -⟩ := unambiguous_mapping.mp hsub
  refine Option.ext fun text => ?_
  rw [get?_flatten_below h hreach, get?_flatten_eq_some_iff hsub]
  refine exists_congr fun inner => and_congr_right fun hinner => and_congr_left fun _ => ?_
  rw [leaves] at hinner
  obtain ⟨key, value, name, hentry, hname, deep, -, rfl⟩ := mem_entryLeaves.mp hinner
  have hne := hwell.ne_empty name (mem_memberNames hentry hname)
  show render _ (.member name :: deep.steps) = _ ↔ render "" (.member name :: deep.steps) = rest
  rw [render_member_below hpath hne, String.append_right_inj]

theorem get?_flatten_below_sequence {node : Node} {items : List Node} {steps : List Step}
    (h : node.Unambiguous) (hreach : node.Reaches steps (.sequence items)) (rest : String) :
    node.flatten.get? (render "" steps ++ "." ++ rest) =
      (sequence items).flatten.get? ("." ++ rest) := by
  refine Option.ext fun text => ?_
  rw [get?_flatten_below h hreach, get?_flatten_eq_some_iff (h.of_reaches hreach)]
  refine exists_congr fun inner => and_congr_right fun hinner => and_congr_left fun _ => ?_
  rw [leaves] at hinner
  obtain ⟨i, part, -, deep, -, rfl⟩ := mem_itemLeaves.mp hinner
  show render _ (.item (0 + i) :: deep.steps) = _ ↔
    render "" (.item (0 + i) :: deep.steps) = "." ++ rest
  rw [render_item_below, String.append_assoc, String.append_right_inj]

theorem get?_flatten_below_scalar {node sub : Node} {steps : List Step} {scalar : String}
    (h : node.Unambiguous) (hreach : node.Reaches steps sub)
    (hscalar : sub.scalarText? = some scalar) (rest : String) :
    node.flatten.get? (render "" steps ++ "." ++ rest) = none := by
  refine Option.eq_none_iff_forall_ne_some.mpr fun text hget => ?_
  obtain ⟨inner, hinner, hkey, -⟩ := (get?_flatten_below h hreach).mp hget
  rw [leaves_of_scalarText? hscalar, List.mem_singleton] at hinner
  subst hinner
  -- The key of the scalar is the path itself, which is shorter than any key below it.
  have hself : render "" steps = render "" steps ++ "." ++ rest := hkey
  have hlength := congrArg String.length hself
  have hdot : ".".length = 1 := rfl
  rw [String.length_append, String.length_append, hdot] at hlength
  omega

/-- The keys of a flattened sequence begin with a dot. -/
theorem exists_of_get?_flatten_sequence {items : List Node} (h : (sequence items).Unambiguous)
    {key text : String} (hget : (sequence items).flatten.get? key = some text) :
    ∃ rest, key = "." ++ rest := by
  obtain ⟨leaf, hleaf, rfl, -⟩ := (get?_flatten_eq_some_iff h).mp hget
  rw [leaves] at hleaf
  obtain ⟨i, part, -, inner, -, rfl⟩ := mem_itemLeaves.mp hleaf
  have hplace : (Step.item (0 + i)).text ≠ "" := (Step.plain_item (0 + i)).1
  exact ⟨_, render_below hplace "." inner.steps⟩

end Node

/-! ## Families of a document -/

theorem get?_raw_document (document : Document) (key : String) :
    (Stack.raw [document.source]).result.get? key = document.values.get? key := by
  have henumerable : document.source.Enumerable := (Source.coherent_ofEntries _ _ _ _).enumerable
  have hall : ∀ s ∈ [document.source], s.Enumerable := by
    intro s hs
    cases List.mem_singleton.mp hs
    exact henumerable
  rw [Stack.raw_eq_overlay hall, Stack.get?_overlay, List.findSome?_singleton,
    henumerable.listed_value]
  exact Option.map_id'

namespace Node

/-- **Families extract subtrees.** In an unambiguous document that is a mapping, the family below
the path to a part is that part, flattened as a document of its own. Where the part is a sequence,
its flattening has a dot before every key, and a scalar has no family. -/
theorem family_extracts_subtree {entries : List (Node × Node)} {sub : Node} {steps : List Step}
    (h : (mapping entries).Unambiguous) (hreach : (mapping entries).Reaches steps sub)
    (hsteps : steps ≠ []) (name : String) (path : Option String) (m : Metadata) :
    let document : Document := ⟨name, path, (mapping entries).flatten⟩
    let family : Family := ⟨join "." (steps.map Step.text), m⟩
    let found := (Stack.rawFamily [document.source] family).result
    (∀ members, sub = .mapping members → found = sub.flatten) ∧
      (∀ items, sub = .sequence items →
        sub.flatten.entries = found.entries.map fun entry => ("." ++ entry.1, entry.2)) ∧
      ∀ text, sub.scalarText? = some text → found = .empty := by
  intro document family found
  -- The root is a mapping, so the first step is a name, and no dot stands before it.
  have hstem : family.stem = render "" steps := by
    cases hreach with
    | here => exact absurd rfl hsteps
    | @member _ key value _ first rest hentry hname _ =>
      obtain ⟨hwell, -⟩ := unambiguous_mapping.mp h
      have hfirst := hwell.ne_empty first (mem_memberNames hentry hname)
      exact (render_eq_join hfirst rest).symm
  have hfound (rest : String) :
      found.get? rest = (mapping entries).flatten.get? (render "" steps ++ "." ++ rest) := by
    rw [Stack.get?_rawFamily, get?_raw_document, Family.key, hstem]
  refine ⟨?_, ?_, ?_⟩
  · rintro members rfl
    refine Dictionary.ext_get? fun rest => ?_
    rw [hfound, get?_flatten_below_mapping h hreach hsteps]
  · rintro items rfl
    apply Dictionary.entries_eq_map_append
    · intro rest
      rw [hfound, get?_flatten_below_sequence h hreach]
    · intro key text hget
      exact exists_of_get?_flatten_sequence (h.of_reaches hreach) hget
  · intro text hscalar
    refine Dictionary.ext_get? fun rest => ?_
    rw [hfound, get?_flatten_below_scalar h hreach hscalar, Dictionary.get?_empty]

/-- A sequence, a mapping whose only name looks like a place, and a scalar under a tag. -/
theorem families_of_mixedDocument :
    let found (stem : String) :=
      (Stack.rawFamily [(Document.ofNode mixedDocument).source] (.ofStem stem)).result
    mixedDocument.Unambiguous ∧
      mixedDocument.Reaches [.member "hosts"] hosts ∧
      hosts.flatten.entries =
        (found "hosts").entries.map (fun entry => ("." ++ entry.1, entry.2)) ∧
      mixedDocument.Reaches [.member "hosts", .item 1] (.mapping [(.integer 0, .null)]) ∧
      found "hosts.1" = (mapping [(.integer 0, .null)]).flatten ∧
      mixedDocument.Reaches [.member "true"] (.text "b") ∧ found "true" = .empty := by
  have h := unambiguous_mixedDocument
  have hsequence : mixedDocument.Reaches [.member "hosts"] hosts :=
    .member List.mem_cons_self rfl (.here hosts)
  have hmapping : mixedDocument.Reaches [.member "hosts", .item 1]
      (.mapping [(.integer 0, .null)]) :=
    .member List.mem_cons_self rfl (.item rfl (.here _))
  have hscalar : mixedDocument.Reaches [.member "true"] (.text "b") :=
    .member (List.mem_cons_of_mem _ List.mem_cons_self) rfl (.tagged (.here _))
  have hextract {sub : Node} {steps : List Step} (hreach : mixedDocument.Reaches steps sub)
      (hsteps : steps ≠ []) :=
    family_extracts_subtree h hreach hsteps Document.standardName none .blank
  exact ⟨h, hsequence, (hextract hsequence (by decide)).2.1 _ rfl, hmapping,
    (hextract hmapping (by decide)).1 _ rfl, hscalar, (hextract hscalar (by decide)).2.2 _ rfl⟩

end Node

end LayeredConfig.Yaml
