import LayeredConfig.Stack

/-!
# Raw views

The keys that the sources list, and the raw values that they resolve to. A key is in a raw view
when some source lists it and the winner for it, which may be another source, has a value. The
subset views are the whole view restricted, and a family is the view re-keyed below a stem.

* `Stack.mem_listedKeys`: the listed keys are the union of what the sources list.
* `Stack.get?_raw`: a listed key has the value that a single look-up finds.
* `Stack.entries_raw`: the entries are the listed keys with these values, in order.
* `Stack.get?_rawMatching`, `Stack.get?_rawForKeys`: the subset views, key by key.
-/

namespace LayeredConfig.Stack

/-- The keys that some source lists. -/
def listedKeys (stack : Stack) : KeySet :=
  stack.foldl (fun keys source => keys.union source.keys) Dictionary.empty

/-- The keys that some source lists, asked of every source. -/
def keys (stack : Stack) : Logged KeySet := do
  Logged.emit (.asked stack.length)
  return stack.listedKeys

/-- The raw values of the listed keys, each resolved in order. -/
def raw (stack : Stack) : Logged (Dictionary String) := do
  let keys ← stack.keys
  let found ← Logged.forEach
    (fun key => do return (← stack.rawValue key).map fun value => (key, value)) keys.toList
  return Dictionary.ofList (found.filterMap id)

/-- The raw values of the keys that satisfy a predicate. -/
def rawMatching (stack : Stack) (p : String → Bool) : Logged (Dictionary String) := do
  return (← stack.raw).filterKeys p

/-- The raw values of given keys. -/
def rawForKeys (stack : Stack) (wanted : List String) : Logged (Dictionary String) :=
  stack.rawMatching fun key => key ∈ KeySet.ofKeys wanted

/-! ## Look-ups -/

@[simp] theorem result_keys (stack : Stack) : stack.keys.result = stack.listedKeys := rfl

theorem mem_listedKeys {stack : Stack} {key : String} :
    key ∈ stack.listedKeys ↔ ∃ s ∈ stack, key ∈ s.keys := by
  -- The set collected so far is general, because each source adds to what the ones before it list.
  have hfold (keys : KeySet) : key ∈ stack.foldl (fun keys s => keys.union s.keys) keys ↔
      key ∈ keys ∨ ∃ s ∈ stack, key ∈ s.keys := by
    induction stack generalizing keys with
    | nil => simp
    | cons s rest ih =>
      rw [List.foldl_cons, ih, KeySet.mem_union, or_assoc]
      simp only [List.mem_cons, exists_eq_or_imp]
  rw [listedKeys, hfold]
  simp only [KeySet.not_mem_empty, false_or]

theorem result_raw (stack : Stack) :
    stack.raw.result = .ofList (stack.listedKeys.toList.filterMap fun key =>
      (stack.rawValue key).result.map fun value => (key, value)) := by
  simp only [raw, Logged.result_bind, Logged.result_pure, Logged.result_forEach,
    List.filterMap_map, Function.comp_def, id_eq, result_keys]

theorem get?_raw (stack : Stack) (key : String) :
    stack.raw.result.get? key =
      if key ∈ stack.listedKeys then (stack.rawValue key).result else none := by
  rw [result_raw, Dictionary.ofList, Dictionary.get?_insertAll_pairs, Dictionary.get?_empty,
    Option.or_none]
  simp only [KeySet.mem_toList]

theorem entries_raw (stack : Stack) :
    stack.raw.result.entries = stack.listedKeys.toList.filterMap fun key =>
      (stack.rawValue key).result.map fun value => (key, value) := by
  rw [result_raw]
  exact Dictionary.entries_ofList_of_pairwise
    (Dictionary.pairwise_pairs stack.listedKeys.pairwise_toList _)

theorem get?_raw_eq_some_iff {stack : Stack} {key value : String} :
    stack.raw.result.get? key = some value ↔
      key ∈ stack.listedKeys ∧ (stack.rawValue key).result = some value := by
  rw [get?_raw]
  split <;> simp [*]

theorem get?_rawMatching (stack : Stack) (p : String → Bool) (key : String) :
    (stack.rawMatching p).result.get? key =
      if p key then stack.raw.result.get? key else none := by
  rw [rawMatching, Logged.result_bind, Logged.result_pure, Dictionary.get?_filterKeys]

theorem get?_rawForKeys (stack : Stack) (wanted : List String) (key : String) :
    (stack.rawForKeys wanted).result.get? key =
      if key ∈ wanted then stack.raw.result.get? key else none := by
  rw [rawForKeys, get?_rawMatching]
  simp only [decide_eq_true_eq, KeySet.mem_ofKeys]

/-! ## Families -/

/-- The raw values of a family, by what follows its stem. -/
def rawFamily (stack : Stack) (family : Family) : Logged (Dictionary String) := do
  let entries := (← stack.raw).entries
  return Dictionary.ofList
    (entries.filterMap fun entry => (family.strip entry.1).map fun rest => (rest, entry.2))

end LayeredConfig.Stack
