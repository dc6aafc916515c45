import LayeredConfig.Proofs.Source.Coherence
import LayeredConfig.Proofs.Source.Snapshot
import LayeredConfig.Proofs.Source.WrittenArguments
import LayeredConfig.Proofs.Stack.Listing
import LayeredConfig.Proofs.Stack.Overlay
import LayeredConfig.Proofs.Yaml.Flattening

/-!
# The empty key

A key that is empty names no property, and most ways into a source are closed to it: a long flag
needs a name before it takes the next argument for its value, a variable whose key would be empty
is dropped, and members are written under their names. Two ways are open. An argument such as `--=v`
holds its value itself and is not asked for a name; and a document that is a scalar, the empty
document among them, is written under the path of its root, which is empty.

There are no others. A value never starts with a dash, so an argument of that form is always read as
an assignment. The place of an item follows a dot even at the root, so the root is the only value
without a name before it.

* `CommandLine.exists_empty_key_iff`: which arguments assign a value to the empty key.
* `Yaml.render_eq_empty_iff`, `Yaml.Node.contains_flatten_empty_iff`: which documents hold it.
* `Stack.mem_listedKeys_iff_hasKey`, `Stack.isSome_get?_raw_iff`, `Stack.exists_line_iff`: the
  views of a stack of coherent sources show the keys that its sources have.
* `empty_key_is_given_by_nameless_flags_and_scalars`: which sources have the empty key, and when it
  shows up in the views of a stack.
-/

namespace LayeredConfig

open Text

/-! ## Command lines -/

namespace CommandLine

/-- An argument that assigns a value to no name. -/
def IsNameless (argument : String) : Prop := ∃ value, argument = "--=" ++ value

theorem isNameless_iff {argument : String} :
    IsNameless argument ↔ ∃ value, Argument.ofText argument = .inline "" value := by
  simp only [Argument.ofText_eq_inline_iff]
  constructor
  · rintro ⟨value, rfl⟩
    exact ⟨value, List.not_mem_nil, rfl⟩
  · rintro ⟨value, -, rfl⟩
    exact ⟨value, rfl⟩

/-- A nameless argument starts with a dash, so no flag takes it for a value. -/
theorem startsWithDash_of_isNameless {argument : String} (h : IsNameless argument) :
    startsWithDash argument = true := by
  obtain ⟨value, rfl⟩ := h
  rw [startsWithDash, String.toList_append]
  rfl

theorem isNameless_iff_of_inline {argument key value : String}
    (h : Argument.ofText argument = .inline key value) : IsNameless argument ↔ key = "" := by
  rw [isNameless_iff, h]
  simp

theorem not_isNameless_of_flag {argument key : String}
    (h : Argument.ofText argument = .flag key) : ¬ IsNameless argument := by
  rw [isNameless_iff, h]
  simp

theorem not_isNameless_of_other {argument : String} (h : Argument.ofText argument = .other) :
    ¬ IsNameless argument := by
  rw [isNameless_iff, h]
  simp

/-- The induction is on the reading of the list: a flag goes with a name of its own, and the value
that it takes is not nameless. -/
theorem exists_empty_key_iff (arguments : List String) :
    (∃ a ∈ assignments arguments, a.key = "") ↔ ∃ argument ∈ arguments, IsNameless argument := by
  fun_induction assignments arguments with
  | case1 => simp
  | case2 argument rest key value hinline ih =>
    simp only [List.mem_cons, exists_eq_or_imp, ih, isNameless_iff_of_inline hinline]
  | case3 argument rest hother ih =>
    simp only [List.mem_cons, exists_eq_or_imp, ih, not_isNameless_of_other hother, false_or]
  | case4 argument key hflag => simp [not_isNameless_of_flag hflag]
  | case5 argument key hflag value rest hdash ih =>
    simp only [ih, List.mem_cons, exists_eq_or_imp, not_isNameless_of_flag hflag, false_or]
  | case6 argument key hflag value rest hdash ih =>
    have hvalue : ¬ IsNameless value := fun h => hdash (startsWithDash_of_isNameless h)
    have hkey : key ≠ "" := Argument.ne_empty_of_ofText_eq_flag hflag
    simp only [List.mem_cons, exists_eq_or_imp, ih, not_isNameless_of_flag hflag, hvalue, hkey,
      false_or]

end CommandLine

/-! ## The environment -/

theorem EnvironmentReader.not_hasKey_empty (r : EnvironmentReader) (env : Environment) :
    ¬ (r.read env).result.hasKey "" = true := by
  intro h
  obtain ⟨v, -, name, value, hprovides⟩ := contains_snapshot.mp h
  exact hprovides.key_ne rfl

/-! ## Documents -/

namespace Yaml

theorem Step.extend_eq_empty_iff {path : String} {step : Step} :
    step.extend path = "" ↔ path = "" ∧ step = .member "" := by
  cases step with
  | member name =>
    rw [extend, memberPath]
    split
    · rename_i hpath
      simp [hpath]
    · rename_i hpath
      simp [hpath]
  | item place => simp [extend, itemPath]

theorem render_eq_empty_iff {path : String} {steps : List Step} :
    render path steps = "" ↔ path = "" ∧ ∀ step ∈ steps, step = .member "" := by
  induction steps generalizing path with
  | nil => simp [render]
  | cons step rest ih =>
    have hstep : render path (step :: rest) = render (step.extend path) rest := rfl
    rw [hstep, ih, Step.extend_eq_empty_iff, List.forall_mem_cons, and_assoc]

namespace Node

/-- No mapping that can be reached has a member with an empty name. -/
def WithoutEmptyNames (node : Node) : Prop :=
  ∀ steps entries, node.Reaches steps (.mapping entries) → "" ∉ memberNames entries

/-- A name on the way to a part is the name of a member of some mapping on that way. -/
theorem exists_mapping_of_mem_steps {node sub : Node} {steps : List Step}
    (hreach : node.Reaches steps sub) {name : String} (hname : .member name ∈ steps) :
    ∃ before entries, node.Reaches before (.mapping entries) ∧ name ∈ memberNames entries := by
  induction hreach with
  | here => cases hname
  | item hitem _ ih =>
    rcases List.mem_cons.mp hname with hhead | hrest
    · cases hhead
    · obtain ⟨before, entries, hbefore, hmem⟩ := ih hrest
      exact ⟨_, entries, .item hitem hbefore, hmem⟩
  | @member entries key value node other steps hentry hkey _ ih =>
    rcases List.mem_cons.mp hname with hhead | hrest
    · cases hhead
      exact ⟨[], entries, .here _, mem_memberNames hentry hkey⟩
    · obtain ⟨before, inner, hbefore, hmem⟩ := ih hrest
      exact ⟨_, inner, .member hentry hkey hbefore, hmem⟩
  | tagged _ ih =>
    obtain ⟨before, entries, hbefore, hmem⟩ := ih hname
    exact ⟨before, entries, .tagged hbefore, hmem⟩

theorem contains_flatten_iff {node : Node} {key : String} :
    node.flatten.contains key = true ↔ ∃ leaf ∈ node.leaves, render "" leaf.steps = key := by
  rw [flatten_eq, Dictionary.contains_ofList]
  constructor
  · rintro ⟨entry, hentry, hkey⟩
    obtain ⟨leaf, hleaf, rfl⟩ := List.mem_map.mp hentry
    exact ⟨leaf, hleaf, hkey.symm⟩
  · rintro ⟨leaf, hleaf, hkey⟩
    exact ⟨_, List.mem_map_of_mem hleaf, hkey.symm⟩

/-- Only the root is written under the empty key: it is a scalar then, under whatever tags. -/
theorem contains_flatten_empty_iff {node : Node} (h : node.WithoutEmptyNames) :
    node.flatten.contains "" = true ↔
      ∃ sub text, node.Reaches [] sub ∧ sub.scalarText? = some text := by
  rw [contains_flatten_iff]
  constructor
  · rintro ⟨⟨steps, text⟩, hleaf, hrender⟩
    obtain ⟨sub, hreach, htext⟩ := mem_leaves.mp hleaf
    have hsteps : steps = [] := by
      cases steps with
      | nil => rfl
      | cons step rest =>
        have hstep := (render_eq_empty_iff.mp hrender).2 step List.mem_cons_self
        subst hstep
        obtain ⟨before, entries, hmapping, hmem⟩ :=
          exists_mapping_of_mem_steps hreach List.mem_cons_self
        exact absurd hmem (h before entries hmapping)
    subst hsteps
    exact ⟨sub, text, hreach, htext⟩
  · rintro ⟨sub, text, hreach, htext⟩
    exact ⟨⟨[], text⟩, mem_leaves.mpr ⟨sub, hreach, htext⟩, rfl⟩

end Node

end Yaml

/-! ## Sources and stacks -/

/-- A source that is read from outside. -/
inductive Source.FromOutside : Source → Prop
  | arguments (arguments : List String) : FromOutside (CommandLine.ofArguments arguments).result
  | environment (reader : EnvironmentReader) (env : Environment) :
    FromOutside (reader.read env).result
  | document (document : Document) : FromOutside document.source

theorem Source.FromOutside.coherent {s : Source} (h : s.FromOutside) : s.Coherent := by
  cases h with
  | arguments arguments => exact (CommandLine.exact_source_read arguments).toCoherent
  | environment reader env => exact coherent_ofEntries _ _ _ _
  | document document => exact coherent_ofEntries _ _ _ _

/-- **The empty key is given by nameless flags and by scalars, and by nothing else.** A command line
has it exactly if one of its arguments begins with `--=`, the environment never has it, and a
document without empty names has it exactly if its root is a scalar. The views of a stack of such
sources show it exactly if one of them has it. -/
theorem empty_key_is_given_by_nameless_flags_and_scalars (arguments : List String)
    (reader : EnvironmentReader) (env : Environment) (document : Document) (node : Yaml.Node)
    (hvalues : document.values = node.flatten) (hnames : node.WithoutEmptyNames) (stack : Stack)
    (hstack : ∀ s ∈ stack, s.FromOutside) :
    ((CommandLine.ofArguments arguments).result.hasKey "" = true ↔
        ∃ argument ∈ arguments, ∃ value, argument = "--=" ++ value) ∧
      (reader.read env).result.hasKey "" = false ∧
      (document.source.hasKey "" = true ↔
        ∃ root text, node.Reaches [] root ∧ root.scalarText? = some text) ∧
      (∀ s ∈ stack, "" ∈ s.keys ↔ s.hasKey "" = true) ∧
      ("" ∈ stack.keys.result ↔ ∃ s ∈ stack, s.hasKey "" = true) ∧
      ((stack.raw.result.get? "").isSome = true ↔ ∃ s ∈ stack, s.hasKey "" = true) ∧
      ((∃ line ∈ stack.listing.result, line.key = "") ↔ ∃ s ∈ stack, s.hasKey "" = true) := by
  have henumerable : ∀ s ∈ stack, s.Enumerable := fun s hs => (hstack s hs).coherent.enumerable
  refine ⟨?_, ?_, ?_, fun s hs => (henumerable s hs).mem_keys_iff_hasKey "", ?_, ?_, ?_⟩
  · exact CommandLine.contains_values_read.trans (CommandLine.exists_empty_key_iff arguments)
  · exact Bool.eq_false_iff.mpr (reader.not_hasKey_empty env)
  · have hlook : document.source.hasKey "" = document.values.contains "" := rfl
    rw [hlook, hvalues, Yaml.Node.contains_flatten_empty_iff hnames]
  · exact Stack.mem_listedKeys_iff_hasKey henumerable
  · exact Stack.isSome_get?_raw_iff henumerable
  · rw [Stack.exists_line_iff, Stack.isSome_get?_raw_iff henumerable]

/-- A flag without a name gives the empty key, and so does the empty document, in which no member is
named at all. -/
theorem nameless_flag_and_empty_document_give_empty_key :
    (CommandLine.ofArguments ["--=v"]).result.hasKey "" = true ∧
      ∃ node document, Yaml.Node.ofText "" = .ok node ∧ node.WithoutEmptyNames ∧
        Document.ofText "" = .ok document ∧ document.source.hasKey "" = true := by
  have hnode : Yaml.Node.ofText "" = .ok .null := by
    have hallowed : "".all Yaml.isAllowed = true := by simp
    rw [Yaml.Node.ofText, hallowed]
    rfl
  refine ⟨by rfl, .null, Document.ofNode .null, hnode, ?_, ?_, by rfl⟩
  · intro steps entries hreach
    cases hreach
  · rw [Document.ofText, hnode]

/-- A sequence of hosts. -/
def hostList : Yaml.Node := .sequence [.text "a", .text "b"]

/-- A command line whose flags have names, above a document with a sequence at its root. -/
def namedSources : Stack :=
  [(CommandLine.ofArguments ["--port=80", "--"]).result,
    (Document.ofNode hostList).source]

theorem withoutEmptyNames_hostList : hostList.WithoutEmptyNames := by
  intro steps entries hreach
  cases hreach with
  | item hitem hreach =>
    have htext := List.mem_of_getElem? hitem
    simp only [List.mem_cons, List.not_mem_nil, or_false] at htext
    rcases htext with rfl | rfl <;> cases hreach

theorem namedSources_lack_empty_key :
    hostList.WithoutEmptyNames ∧ (∀ s ∈ namedSources, s.FromOutside) ∧
      "" ∉ namedSources.keys.result := by
  have hsources : ∀ s ∈ namedSources, s.FromOutside :=
    List.forall_mem_cons.mpr ⟨.arguments _, List.forall_mem_singleton.mpr (.document _)⟩
  obtain ⟨harguments, -, hdocument, -, hkeys, -⟩ :=
    empty_key_is_given_by_nameless_flags_and_scalars ["--port=80", "--"] (.conventional none) []
      (Document.ofNode hostList) hostList rfl withoutEmptyNames_hostList namedSources hsources
  refine ⟨withoutEmptyNames_hostList, hsources, ?_⟩
  rw [hkeys]
  rintro ⟨s, hs, hkey⟩
  rcases List.mem_cons.mp hs with rfl | hs
  · obtain ⟨argument, hmem, value, rfl⟩ := harguments.mp hkey
    have hchars : ∀ argument ∈ ["--port=80", "--"], argument.toList[2]? ≠ some '=' := by decide
    exact absurd (by rw [String.toList_append]; rfl) (hchars _ hmem)
  · cases List.mem_singleton.mp hs
    obtain ⟨root, text, hreach, htext⟩ := hdocument.mp hkey
    cases hreach
    cases htext

end LayeredConfig
