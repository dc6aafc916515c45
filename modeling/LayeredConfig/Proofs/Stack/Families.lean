import LayeredConfig.Source.Table
import LayeredConfig.Stack.Raw

/-!
# Families re-key the raw view

A family is read off the raw view: the stem and a dot are taken off every key that begins with
them, and what is left is written into a new dictionary. Two keys with one suffix would lose a
value there without notice. But a key is told by its suffix, and taking off one beginning keeps the
order of the keys, so the entries that are left are the new dictionary as they stand
(`entries_rawFamily`).

The stem may be empty and may hold dots, and so may the suffix. The stem alone is no member, nor is
a key that goes on after the stem with anything but a dot.

* `Family.key`: the key of the member with a suffix; `Family.strip` undoes it.
* `Text.append_lt_append_iff`, `Dictionary.entries_eq_map_append`: a common beginning does not count
  for the order of texts, so a dictionary may be re-keyed by one entry by entry.
* `map_key_entries_rawFamily`: with their stem put back, the entries of a family are those entries
  of the raw view whose keys begin with the stem and a dot.
* `family_rekeys_raw`: a family key by key, its size, its winners, and families of families.
-/

namespace LayeredConfig

/-! ## Keys with a common beginning -/

theorem Text.append_lt_append_iff (start a b : String) : start ++ a < start ++ b ↔ a < b := by
  simp only [String.lt_iff, String.toList_append]
  induction start.toList with
  | nil => rfl
  | cons c rest ih =>
    rw [List.cons_append, List.cons_append, List.cons_lt_cons_iff, ih]
    have hirrefl : ¬ c < c := Char.lt_irrefl c
    simp only [hirrefl, false_or, true_and]

/-- A dictionary whose keys have a common beginning, and one without it, have the same entries in
the same order. -/
theorem Dictionary.entries_eq_map_append {α : Type} {d e : Dictionary α} {start : String}
    (hget : ∀ rest, d.get? (start ++ rest) = e.get? rest)
    (hstart : ∀ key value, d.get? key = some value → ∃ rest, key = start ++ rest) :
    d.entries = e.entries.map fun entry => (start ++ entry.1, entry.2) := by
  apply entries_eq_of_pairwise
  · rw [List.pairwise_map]
    exact e.pairwise_entries.imp fun hlt => (Text.append_lt_append_iff _ _ _).mpr hlt
  · intro key value
    rw [List.mem_map]
    constructor
    · intro h
      obtain ⟨rest, rfl⟩ := hstart key value h
      rw [hget, get?_eq_some_iff] at h
      exact ⟨(rest, value), h, rfl⟩
    · rintro ⟨⟨rest, v⟩, hentry, heq⟩
      cases heq
      rw [hget, get?_eq_some_iff]
      exact hentry

/-! ## The keys of a family -/

namespace Family

/-- The key of the member with a suffix. -/
def key (f : Family) (rest : String) : String := f.stem ++ "." ++ rest

theorem strip_key (f : Family) (rest : String) : f.strip (f.key rest) = some rest :=
  strip_eq_some_iff.mpr rfl

theorem key_of_strip {f : Family} {key rest : String} (h : f.strip key = some rest) :
    f.key rest = key :=
  (strip_eq_some_iff.mp h).symm

/-- The family of a member's key lies within the family. -/
theorem key_key (f : Family) (inner rest : String) (m : Metadata) :
    (⟨f.key inner, m⟩ : Family).key rest = f.key (inner ++ "." ++ rest) := by
  simp only [key, String.append_assoc]

/-- Whether a key begins with the stem and a dot. -/
def holds (f : Family) (key : String) : Bool :=
  Text.startsWith (f.stem ++ ".").toList key.toList

theorem holds_iff {f : Family} {key : String} : f.holds key = true ↔ ∃ rest, key = f.key rest := by
  have hkey (rest : String) : (f.key rest).toList = (f.stem ++ ".").toList ++ rest.toList :=
    String.toList_append
  rw [holds, Text.startsWith_iff]
  constructor
  · rintro ⟨rest, hrest⟩
    refine ⟨String.ofList rest, String.toList_inj.mp ?_⟩
    rw [hkey, String.toList_ofList, hrest]
  · rintro ⟨rest, rfl⟩
    exact ⟨rest.toList, (hkey rest).symm⟩

end Family

namespace Stack

/-! ## The entries of a family -/

/-- The members of the raw view, by their suffixes. -/
def members (stack : Stack) (family : Family) : List (String × String) :=
  stack.raw.result.entries.filterMap fun entry =>
    (family.strip entry.1).map fun rest => (rest, entry.2)

theorem result_rawFamily (stack : Stack) (family : Family) :
    (stack.rawFamily family).result = .ofList (stack.members family) := rfl

theorem mem_members {stack : Stack} {family : Family} {rest value : String} :
    (rest, value) ∈ stack.members family ↔
      stack.raw.result.get? (family.key rest) = some value := by
  rw [members, List.mem_filterMap, Dictionary.get?_eq_some_iff]
  constructor
  · rintro ⟨⟨key, v⟩, hentry, hstrip⟩
    obtain ⟨r, hr, heq⟩ := Option.map_eq_some_iff.mp hstrip
    cases heq
    rw [Family.key_of_strip hr]
    exact hentry
  · intro hentry
    refine ⟨(family.key rest, value), hentry, ?_⟩
    rw [Family.strip_key]
    rfl

/-- The suffixes are in the order of the keys that they were taken from. -/
theorem pairwise_members (stack : Stack) (family : Family) :
    (stack.members family).Pairwise fun a b => a.1 < b.1 := by
  apply List.Pairwise.filterMap _ _ stack.raw.result.pairwise_entries
  intro entry other hlt a ha b hb
  obtain ⟨rest, hrest, rfl⟩ := Option.map_eq_some_iff.mp ha
  obtain ⟨rest', hrest', rfl⟩ := Option.map_eq_some_iff.mp hb
  rw [← Family.key_of_strip hrest, ← Family.key_of_strip hrest'] at hlt
  exact (Text.append_lt_append_iff _ _ _).mp hlt

/-- No member is written over another. -/
theorem entries_rawFamily (stack : Stack) (family : Family) :
    (stack.rawFamily family).result.entries = stack.members family := by
  rw [result_rawFamily]
  exact Dictionary.entries_ofList_of_pairwise (stack.pairwise_members family)

theorem get?_rawFamily (stack : Stack) (family : Family) (rest : String) :
    (stack.rawFamily family).result.get? rest = stack.raw.result.get? (family.key rest) := by
  refine Option.ext fun value => ?_
  rw [Dictionary.get?_eq_some_iff, entries_rawFamily, mem_members]

theorem map_key_entries_rawFamily (stack : Stack) (family : Family) :
    (stack.rawFamily family).result.entries.map (fun entry => (family.key entry.1, entry.2)) =
      stack.raw.result.entries.filter fun entry => family.holds entry.1 := by
  rw [← Dictionary.entries_filterKeys]
  refine (Dictionary.entries_eq_map_append (fun rest => ?_) fun key value h => ?_).symm
  · have hholds : family.holds (family.key rest) = true := Family.holds_iff.mpr ⟨rest, rfl⟩
    rw [get?_rawFamily]
    exact (Dictionary.get?_filterKeys _ _ _).trans (if_pos hholds)
  · rw [Dictionary.get?_filterKeys] at h
    split at h
    · rename_i hholds
      exact Family.holds_iff.mp hholds
    · cases h

/-! ## Families and winners -/

theorem nodup_suffixes (stack : Stack) (family : Family) :
    (stack.raw.result.entries.filterMap fun entry => family.strip entry.1).Nodup := by
  have hsuffixes : (stack.raw.result.entries.filterMap fun entry => family.strip entry.1) =
      (stack.members family).map Prod.fst := by
    simp only [members, List.map_filterMap, Option.map_map, Function.comp_def, Option.map_id']
  rw [hsuffixes]
  exact Dictionary.nodup_keys_of_pairwise (stack.pairwise_members family)

theorem size_rawFamily (stack : Stack) (family : Family) :
    (stack.rawFamily family).result.size =
      (stack.raw.result.entries.filter fun entry => family.holds entry.1).length := by
  rw [← map_key_entries_rawFamily, List.length_map, Dictionary.size]

theorem get?_raw_eq_some_iff_winner {stack : Stack} {key value : String} :
    stack.raw.result.get? key = some value ↔
      (∃ s ∈ stack, key ∈ s.keys) ∧
        ∃ w, stack.find? (·.hasKey key) = some w ∧ w.value key = some value := by
  rw [get?_raw_eq_some_iff, mem_listedKeys, result_rawValue, Option.bind_eq_some_iff]
  rfl

/-- **A family is the raw view re-keyed.** A suffix has the value of its key in the raw view. No two
keys of the raw view leave one suffix, so all of them are kept, in order; a suffix has the value of
the first source that has its key; and a family below a member's key is read off the family. -/
theorem family_rekeys_raw (stack : Stack) (family : Family) :
    (∀ rest value, (stack.rawFamily family).result.get? rest = some value ↔
        stack.raw.result.get? (family.stem ++ "." ++ rest) = some value) ∧
      (stack.raw.result.entries.filterMap fun entry => family.strip entry.1).Nodup ∧
      (stack.rawFamily family).result.entries.map
          (fun entry => (family.stem ++ "." ++ entry.1, entry.2)) =
        stack.raw.result.entries.filter (fun entry => family.holds entry.1) ∧
      (stack.rawFamily family).result.size =
        (stack.raw.result.entries.filter fun entry => family.holds entry.1).length ∧
      (∀ rest value, (stack.rawFamily family).result.get? rest = some value ↔
        (∃ s ∈ stack, family.stem ++ "." ++ rest ∈ s.keys) ∧
          ∃ w, stack.find? (·.hasKey (family.stem ++ "." ++ rest)) = some w ∧
            w.value (family.stem ++ "." ++ rest) = some value) ∧
      ∀ inner m rest value,
        (stack.rawFamily ⟨family.stem ++ "." ++ inner, m⟩).result.get? rest = some value ↔
          (stack.rawFamily family).result.get? (inner ++ "." ++ rest) = some value := by
  refine ⟨fun rest value => ?_, nodup_suffixes stack family, map_key_entries_rawFamily stack family,
    size_rawFamily stack family, fun rest value => ?_, fun inner m rest value => ?_⟩
  · rw [get?_rawFamily]
    rfl
  · rw [get?_rawFamily, get?_raw_eq_some_iff_winner]
    rfl
  · have hkey := family.key_key inner rest m
    rw [get?_rawFamily, get?_rawFamily, ← hkey]
    rfl

-- The stem alone is no member, and neither is a key that only looks like one.
example :
    let stack : Stack := [(Table.ofList "first" [("a", "1"), ("a.", "2"), ("ab.c", "3")]).source,
      (Table.ofList "second" [("a..b", "4"), ("a.b", "5"), ("a.", "6")]).source]
    (stack.rawFamily (.ofStem "a")).result.entries = [("", "2"), (".b", "4"), ("b", "5")] := by
  decide +kernel

end Stack

end LayeredConfig
