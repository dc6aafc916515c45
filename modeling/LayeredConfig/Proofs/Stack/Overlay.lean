import LayeredConfig.Source.Foreign
import LayeredConfig.Source.Table
import LayeredConfig.Stack.Raw

/-!
# Raw views and the plain overlay

The raw view resolves every listed key on its own. The plain overlay knows nothing of resolution:
it visits the sources from the lowest to the highest precedence and writes what each of them
lists over what is there. A source that hides a key, or has one without a value, shadows lower
sources in the raw view only, so the two differ in general. They are equal when every source is
enumerable.

* `get?_overlay`: the overlay holds the value of the first source that lists the key with one.
* `get?_overlay_of_enumerable`: for enumerable sources that is what a single look-up finds.
* `raw_eq_overlay`, `keys_raw`: so the overlay is the raw view, and its keys are the listed ones.
* `mem_listedKeys_iff_hasKey`, `isSome_get?_raw_iff`: which are the keys that some source has.
* `raw_views_refine_overlay`: the raw view and its subsets key by key, for all sources, and the
  overlay for enumerable ones.
-/

namespace LayeredConfig

/-! ## Enumerable sources -/

namespace Source

/-- A source that lists the keys that it has, and has a value for each of them. -/
structure Enumerable (s : Source) : Prop where
  mem_keys_iff_hasKey : ∀ k, k ∈ s.keys ↔ s.hasKey k = true
  hasKey_iff_value : ∀ k, s.hasKey k = true ↔ (s.value k).isSome = true

theorem Coherent.enumerable {s : Source} (h : s.Coherent) : s.Enumerable where
  mem_keys_iff_hasKey k := (h.hasKey_iff_mem_keys k).symm
  hasKey_iff_value := h.hasKey_iff_value

/-- Without the key there is no value either, so the look-up need not ask whether the key is
listed. -/
theorem Enumerable.listed_value {s : Source} (h : s.Enumerable) (k : String) :
    (if k ∈ s.keys then s.value k else none) = s.value k := by
  split
  · rfl
  · rename_i hk
    have hnot : ¬ (s.value k).isSome = true := fun hv =>
      hk ((h.mem_keys_iff_hasKey k).mpr ((h.hasKey_iff_value k).mpr hv))
    exact (Option.not_isSome_iff_eq_none.mp hnot).symm

end Source

/-! ## The overlay -/

/-- Writes the listed entries of a source over a dictionary. -/
def Dictionary.overwrite (d : Dictionary String) (s : Source) : Dictionary String :=
  d.insertAll (s.keys.toList.filterMap fun key => (s.value key).map fun value => (key, value))

theorem Dictionary.get?_overwrite (d : Dictionary String) (s : Source) (k : String) :
    (d.overwrite s).get? k = (if k ∈ s.keys then s.value k else none).or (d.get? k) := by
  rw [overwrite, get?_insertAll_pairs]
  simp only [KeySet.mem_toList]

namespace Stack

/-- The sources written one over the other, from the lowest precedence to the highest. -/
def overlay (stack : Stack) : Dictionary String := stack.reverse.foldl .overwrite .empty

theorem overlay_cons (s : Source) (rest : Stack) :
    overlay (s :: rest) = (overlay rest).overwrite s := by
  rw [overlay, List.reverse_cons, List.foldl_append]
  rfl

/-- The overlay goes by what is listed with a value, not by who has the key. -/
theorem get?_overlay (stack : Stack) (key : String) :
    stack.overlay.get? key =
      stack.findSome? fun s => if key ∈ s.keys then s.value key else none := by
  induction stack with
  | nil => exact Dictionary.get?_empty key
  | cons s rest ih =>
    rw [overlay_cons, Dictionary.get?_overwrite, ih, List.findSome?_cons]
    cases (if key ∈ s.keys then s.value key else none) <;> rfl

/-- The induction is on the stack: an enumerable source without the key has no value for it and is
passed over by both sides. -/
theorem get?_overlay_of_enumerable {stack : Stack} (h : ∀ s ∈ stack, s.Enumerable)
    (key : String) : stack.overlay.get? key = (stack.rawValue key).result := by
  rw [get?_overlay, result_rawValue]
  induction stack with
  | nil => rfl
  | cons s rest ih =>
    have hs := h s List.mem_cons_self
    rw [List.findSome?_cons, hs.listed_value, winner_cons]
    cases hv : s.value key with
    | some value =>
      have hk : s.hasKey key = true := (hs.hasKey_iff_value key).mpr (by rw [hv]; rfl)
      rw [if_pos hk, Option.bind_some, hv]
    | none =>
      have hk : ¬ s.hasKey key = true := fun hk => by
        have hsome := (hs.hasKey_iff_value key).mp hk
        rw [hv] at hsome
        cases hsome
      rw [if_neg hk]
      exact ih fun t ht => h t (List.mem_cons_of_mem s ht)

/-! ## The raw view of enumerable sources -/

theorem mem_listedKeys_iff_rawValue {stack : Stack} (h : ∀ s ∈ stack, s.Enumerable)
    {key : String} : key ∈ stack.listedKeys ↔ (stack.rawValue key).result.isSome = true := by
  rw [mem_listedKeys, result_rawValue]
  constructor
  · rintro ⟨s, hs, hk⟩
    have hsk : s.hasKey key = true := ((h s hs).mem_keys_iff_hasKey key).mp hk
    cases hw : stack.winner key with
    | none => exact absurd hsk (winner_eq_none_iff.mp hw s hs)
    | some w => exact ((h w (mem_of_winner hw)).hasKey_iff_value key).mp (hasKey_of_winner hw)
  · intro hsome
    obtain ⟨value, hvalue⟩ := Option.isSome_iff_exists.mp hsome
    obtain ⟨w, hw, -⟩ := Option.bind_eq_some_iff.mp hvalue
    have hmem := mem_of_winner hw
    exact ⟨w, hmem, ((h w hmem).mem_keys_iff_hasKey key).mpr (hasKey_of_winner hw)⟩

theorem get?_raw_of_enumerable {stack : Stack} (h : ∀ s ∈ stack, s.Enumerable) (key : String) :
    stack.raw.result.get? key = (stack.rawValue key).result := by
  rw [get?_raw]
  split
  · rfl
  · rename_i hk
    rw [mem_listedKeys_iff_rawValue h] at hk
    exact (Option.not_isSome_iff_eq_none.mp hk).symm

theorem mem_listedKeys_iff_hasKey {stack : Stack} (h : ∀ s ∈ stack, s.Enumerable)
    {key : String} : key ∈ stack.listedKeys ↔ ∃ s ∈ stack, s.hasKey key = true := by
  rw [mem_listedKeys]
  refine exists_congr fun s => and_congr_right fun hs => ?_
  exact (h s hs).mem_keys_iff_hasKey key

/-- No key that a source has is lost in the raw view. -/
theorem isSome_get?_raw_iff {stack : Stack} (h : ∀ s ∈ stack, s.Enumerable) {key : String} :
    (stack.raw.result.get? key).isSome = true ↔ ∃ s ∈ stack, s.hasKey key = true := by
  rw [get?_raw_of_enumerable h, ← mem_listedKeys_iff_rawValue h, mem_listedKeys_iff_hasKey h]

theorem raw_eq_overlay {stack : Stack} (h : ∀ s ∈ stack, s.Enumerable) :
    stack.raw.result = stack.overlay :=
  Dictionary.ext_get? fun key => by
    rw [get?_raw_of_enumerable h, get?_overlay_of_enumerable h]

-- A key that the first source has but neither lists nor has a value for.
example :
    let stack : Stack := [Foreign.claimant "port",
      (Table.ofList "defaults" [("port", "80")]).source]
    stack.overlay.get? "port" = some "80" ∧ stack.raw.result.get? "port" = none := by
  decide +kernel

theorem keys_raw {stack : Stack} (h : ∀ s ∈ stack, s.Enumerable) :
    stack.raw.result.keys = stack.keys.result :=
  KeySet.ext_mem fun key => by
    rw [Dictionary.mem_keys, Dictionary.contains, get?_raw_of_enumerable h, result_keys,
      mem_listedKeys_iff_rawValue h]

/-- **The raw views refine the plain overlay.** A key is in the raw view with the value of a
single look-up exactly when some source lists it; the subset views restrict the raw view to the
keys that satisfy the predicate or are asked for; and for enumerable sources the raw view is the
overlay, with the listed keys. -/
theorem raw_views_refine_overlay (stack : Stack) :
    (∀ key value, stack.raw.result.get? key = some value ↔
        (∃ s ∈ stack, key ∈ s.keys) ∧ (stack.rawValue key).result = some value) ∧
      (∀ p key value, (stack.rawMatching p).result.get? key = some value ↔
        p key = true ∧ stack.raw.result.get? key = some value) ∧
      (∀ wanted key value, (stack.rawForKeys wanted).result.get? key = some value ↔
        key ∈ wanted ∧ stack.raw.result.get? key = some value) ∧
      ((∀ s ∈ stack, s.Enumerable) →
        stack.raw.result = stack.overlay ∧ stack.raw.result.keys = stack.keys.result) := by
  refine ⟨fun key value => ?_, fun p key value => ?_, fun wanted key value => ?_,
    fun h => ⟨raw_eq_overlay h, keys_raw h⟩⟩
  · rw [get?_raw_eq_some_iff, mem_listedKeys]
  · rw [get?_rawMatching]
    split <;> simp [*]
  · rw [get?_rawForKeys]
    split <;> simp [*]

/-- Two tables that share a key. -/
def twoTables : Stack :=
  [(Table.ofList "overrides" [("port", "9090")]).source,
    (Table.ofList "defaults" [("port", "80"), ("host", "localhost")]).source]

theorem enumerable_of_mem_twoTables : ∀ s ∈ twoTables, s.Enumerable := by
  simp [twoTables, (Table.coherent_source _).enumerable]

theorem raw_twoTables_eq_overlay :
    (∀ s ∈ twoTables, s.Enumerable) ∧ twoTables.raw.result = twoTables.overlay ∧
      twoTables.raw.result.keys = twoTables.keys.result :=
  ⟨enumerable_of_mem_twoTables,
    (raw_views_refine_overlay twoTables).2.2.2 enumerable_of_mem_twoTables⟩

end Stack

end LayeredConfig
