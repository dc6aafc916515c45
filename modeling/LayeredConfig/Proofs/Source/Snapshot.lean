import LayeredConfig.Source.Environment

/-!
# What an environment provides

A variable is eligible for a key if its name and its value are text within the limits, the name
starts with the stem, and the rest of the name turns into the key. Several variables can be
eligible for one key, because lower-casing and dots for underscores make different names equal.
The snapshot answers for a key with the last of them, and variables that are not eligible make no
difference, wherever they stand.

Sizes are counted in bytes, and over the whole name with its stem.

* `entry?_eq_some_iff`: the entry of one variable, from its bytes.
* `get?_snapshot_eq_some_iff`: the entry of a key is that of the last eligible variable.
* `source_of_environment`: which keys there are, and that value and origin of a key come from the
  same variable.
-/

namespace LayeredConfig

open Text

/-! ## Bytes and text -/

theorem fromUTF8?_eq_some_iff {bytes : ByteArray} {s : String} :
    String.fromUTF8? bytes = some s ↔ bytes = s.toUTF8 := by
  constructor
  · intro h
    unfold String.fromUTF8? at h
    split at h
    · rw [Option.some.injEq] at h
      subst h
      rfl
    · cases h
  · rintro rfl
    rw [String.fromUTF8?, String.toUTF8_eq_toByteArray, dif_pos s.isValidUTF8]
    rfl

theorem size_of_fromUTF8? {bytes : ByteArray} {s : String} (h : String.fromUTF8? bytes = some s) :
    bytes.size = s.utf8ByteSize := by
  rw [fromUTF8?_eq_some_iff.mp h]
  exact String.size_toByteArray

namespace EnvironmentReader

/-! ## Eligible variables -/

/-- The key that the rest of a name turns into: lower case comes first, then dots for
underscores. -/
def keyOfRest (r : EnvironmentReader) (rest : String) : String :=
  let cased := if r.lowerCases then lowered rest else rest
  if r.replacesUnderscores then cased.map fun c => if c = '_' then '.' else c else cased

/-- The variable is a text within the limits, and its name turns into the key. -/
structure Provides (r : EnvironmentReader) (v : Variable) (name value key : String) : Prop where
  name_text : v.name = name.toUTF8
  value_text : v.value = value.toUTF8
  name_size : v.name.size ≤ 512
  value_size : v.value.size ≤ 1048576
  key_of_rest : ∃ rest, name = r.stem.getD "" ++ rest ∧ r.keyOfRest rest = key
  key_ne : key ≠ ""

/-- The variable provides some value for the key. -/
def Eligible (r : EnvironmentReader) (key : String) (v : Variable) : Prop :=
  ∃ name value, r.Provides v name value key

/-! ## The entry of one variable -/

theorem keyOfRest_ofList (r : EnvironmentReader) (rest : List Char) :
    r.keyOfRest (String.ofList rest) =
      String.ofList (if r.replacesUnderscores then
        (if r.lowerCases then lower rest else rest).map fun c => if c = '_' then '.' else c
      else if r.lowerCases then lower rest else rest) := by
  rw [← String.toList_inj, String.toList_ofList, keyOfRest]
  cases r.lowerCases <;> cases r.replacesUnderscores <;> simp [lowered, String.toList_map]

/-- A reader without a stem reads names in full, as if it had the empty stem. -/
theorem keyOf_eq (r : EnvironmentReader) (name : String) :
    r.keyOf name = (stripStart (r.stem.getD "").toList name.toList).map fun rest =>
      r.keyOfRest (String.ofList rest) := by
  simp only [keyOfRest_ofList, keyOf]
  cases r.stem with
  | none => rfl
  | some stem => rfl

theorem keyOf_eq_some_iff {r : EnvironmentReader} {name key : String} :
    r.keyOf name = some key ↔ ∃ rest, name = r.stem.getD "" ++ rest ∧ r.keyOfRest rest = key := by
  have hstem (rest : List Char) : stripStart (r.stem.getD "").toList name.toList = some rest ↔
      name = r.stem.getD "" ++ String.ofList rest := by
    rw [stripStart_eq_some_iff, ← String.toList_inj, String.toList_append, String.toList_ofList]
  rw [keyOf_eq, Option.map_eq_some_iff]
  constructor
  · rintro ⟨rest, hrest, hkey⟩
    exact ⟨String.ofList rest, (hstem rest).mp hrest, hkey⟩
  · rintro ⟨rest, hname, hkey⟩
    rw [← String.ofList_toList (s := rest)] at hname hkey
    exact ⟨rest.toList, (hstem _).mpr hname, hkey⟩

theorem Reading.ofVariable_eq_text_iff {v : Variable} {name value : String} :
    Reading.ofVariable v = .text name value ↔
      v.name = name.toUTF8 ∧ v.value = value.toUTF8 ∧ v.name.size ≤ 512 ∧
        v.value.size ≤ 1048576 := by
  rw [← fromUTF8?_eq_some_iff, ← fromUTF8?_eq_some_iff, ofVariable]
  split
  · rename_i name' value' hname hvalue
    rw [hname, hvalue, size_of_fromUTF8? hname, size_of_fromUTF8? hvalue]
    split
    · rename_i hover
      simp only [nameLimit, valueLimit] at hover
      constructor
      · intro h
        cases h
      · rintro ⟨-, -, hn, hv⟩
        omega
    · rename_i hwithin
      simp only [nameLimit, valueLimit] at hwithin
      simp only [text.injEq, Option.some.injEq]
      constructor
      · rintro ⟨rfl, rfl⟩
        exact ⟨rfl, rfl, by omega, by omega⟩
      · rintro ⟨rfl, rfl, -, -⟩
        exact ⟨rfl, rfl⟩
  · rename_i hnot
    constructor
    · intro h
      cases h
    · rintro ⟨hname, hvalue, -⟩
      exact absurd hvalue (hnot name value hname)

theorem entry?_eq_some_iff {r : EnvironmentReader} {v : Variable} {key : String}
    {e : EnvironmentEntry} :
    r.entry? v = some (key, e) ↔ r.Provides v e.variableName e.value key := by
  constructor
  · intro h
    unfold entry? at h
    split at h
    · rename_i name value hread
      obtain ⟨hname, hvalue, hnameSize, hvalueSize⟩ := Reading.ofVariable_eq_text_iff.mp hread
      split at h
      · rename_i k hkey
        split at h
        · cases h
        · rename_i hne
          cases h
          exact ⟨hname, hvalue, hnameSize, hvalueSize, keyOf_eq_some_iff.mp hkey, hne⟩
      · cases h
    · cases h
  · rintro ⟨hname, hvalue, hnameSize, hvalueSize, hrest, hne⟩
    have hread := Reading.ofVariable_eq_text_iff.mpr ⟨hname, hvalue, hnameSize, hvalueSize⟩
    unfold entry?
    rw [hread]
    simp only [keyOf_eq_some_iff.mpr hrest, if_neg hne]

/-! ## The last eligible variable -/

/-- The entry of a variable, if it is one for the key. -/
def entryFor? (r : EnvironmentReader) (key : String) (v : Variable) : Option EnvironmentEntry :=
  match r.entry? v with
  | some (entryKey, entry) => if entryKey = key then some entry else none
  | none => none

theorem entryFor?_eq_some_iff {r : EnvironmentReader} {v : Variable} {key : String}
    {e : EnvironmentEntry} :
    r.entryFor? key v = some e ↔ r.Provides v e.variableName e.value key := by
  rw [← entry?_eq_some_iff, entryFor?]
  cases r.entry? v with
  | none => simp
  | some pair =>
    obtain ⟨entryKey, entry⟩ := pair
    by_cases hkey : entryKey = key
    · simp [hkey]
    · simp [hkey]

theorem entryFor?_eq_none_iff {r : EnvironmentReader} {v : Variable} {key : String} :
    r.entryFor? key v = none ↔ ¬ r.Eligible key v := by
  rw [Option.eq_none_iff_forall_ne_some]
  constructor
  · rintro hnone ⟨name, value, h⟩
    exact hnone ⟨name, value⟩ (entryFor?_eq_some_iff.mpr h)
  · intro hnot e he
    exact hnot ⟨e.variableName, e.value, entryFor?_eq_some_iff.mp he⟩

/-- Reading goes through the variables in order and writes over what is there, so a look-up finds
the first entry for the key from the end. -/
theorem get?_snapshot (r : EnvironmentReader) (env : Environment) (key : String) :
    (r.snapshot env).get? key = env.reverse.findSome? (r.entryFor? key) := by
  rw [snapshot, Dictionary.get?_ofList, ← List.filterMap_reverse]
  induction env.reverse with
  | nil => rfl
  | cons v rest ih =>
    rw [List.findSome?_cons, ← ih, List.filterMap_cons, entryFor?]
    cases r.entry? v with
    | none => rfl
    | some pair =>
      rw [List.lookup_cons, BEq.comm]
      by_cases h : pair.1 = key
      · simp [h]
      · simp [h, beq_false_of_ne h]

theorem get?_snapshot_eq_some_iff {r : EnvironmentReader} {env : Environment} {key : String}
    {e : EnvironmentEntry} :
    (r.snapshot env).get? key = some e ↔
      ∃ before v after, env = before ++ v :: after ∧
        r.Provides v e.variableName e.value key ∧ ∀ u ∈ after, ¬ r.Eligible key u := by
  rw [get?_snapshot, List.findSome?_eq_some_iff]
  constructor
  · rintro ⟨later, v, earlier, henv, hentry, hlater⟩
    refine ⟨earlier.reverse, v, later.reverse, ?_, entryFor?_eq_some_iff.mp hentry, ?_⟩
    · rw [List.reverse_eq_iff] at henv
      simp [henv]
    · intro u hu
      exact entryFor?_eq_none_iff.mp (hlater u (List.mem_reverse.mp hu))
  · rintro ⟨before, v, after, rfl, hprovides, hafter⟩
    refine ⟨after.reverse, v, before.reverse, by simp, entryFor?_eq_some_iff.mpr hprovides, ?_⟩
    intro u hu
    exact entryFor?_eq_none_iff.mpr (hafter u (List.mem_reverse.mp hu))

theorem contains_snapshot {r : EnvironmentReader} {env : Environment} {key : String} :
    (r.snapshot env).contains key = true ↔ ∃ v ∈ env, r.Eligible key v := by
  rw [Dictionary.contains, get?_snapshot, List.findSome?_isSome_iff]
  simp only [List.mem_reverse, Option.isSome_iff_exists, entryFor?_eq_some_iff]
  constructor
  · rintro ⟨v, hv, e, h⟩
    exact ⟨v, hv, e.variableName, e.value, h⟩
  · rintro ⟨v, hv, name, value, h⟩
    exact ⟨v, hv, ⟨name, value⟩, h⟩

/-- **The snapshot is the last eligible variable of each key.** The source has the keys that some
variable is eligible for. Value and origin of a key come from one variable, after which no other
is eligible, and the origin tells the name of that variable in full. -/
theorem source_of_environment (r : EnvironmentReader) (env : Environment) (key : String) :
    let source := (r.read env).result
    (source.hasKey key = true ↔ ∃ v ∈ env, r.Eligible key v) ∧
      ∀ value origin, source.value key = some value ∧ source.origin key = some origin ↔
        ∃ before v after name, env = before ++ v :: after ∧ r.Provides v name value key ∧
          (∀ u ∈ after, ¬ r.Eligible key u) ∧ origin = "environment variable " ++ name := by
  intro source
  refine ⟨contains_snapshot, fun value origin => ?_⟩
  have hvalue : source.value key = ((r.snapshot env).get? key).map (·.value) := rfl
  have horigin : source.origin key =
      ((r.snapshot env).get? key).map fun e => "environment variable " ++ e.variableName := rfl
  rw [hvalue, horigin, Option.map_eq_some_iff, Option.map_eq_some_iff]
  constructor
  · rintro ⟨⟨e, he, rfl⟩, e', he', rfl⟩
    cases Option.some.inj (he.symm.trans he')
    obtain ⟨before, v, after, henv, hprovides, hafter⟩ := get?_snapshot_eq_some_iff.mp he
    exact ⟨before, v, after, e.variableName, henv, hprovides, hafter, rfl⟩
  · rintro ⟨before, v, after, name, henv, hprovides, hafter, rfl⟩
    have he : (r.snapshot env).get? key = some ⟨name, value⟩ :=
      get?_snapshot_eq_some_iff.mpr ⟨before, v, after, henv, hprovides, hafter⟩
    exact ⟨⟨_, he, rfl⟩, _, he, rfl⟩

end EnvironmentReader

end LayeredConfig
